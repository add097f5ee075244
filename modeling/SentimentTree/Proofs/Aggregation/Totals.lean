import Mathlib.Algebra.BigOperators.Group.List.Lemmas
import Mathlib.Data.List.Dedup
import Mathlib.Data.UInt
import SentimentTree.Aggregation.Totals
import SentimentTree.Proofs.Calendar.Buckets

/-! # What the running totals hold

After any number of messages the totals are the buckets of those messages in order of their first
day, each with the count and the sum, in message order, of exactly the messages dated between its
ends. `Tallies` is that invariant; `Tallies.insert` keeps it for one message and `collect_tallies`
for a whole pass. That no bucket takes a message of another one is the partition of the calendar.
-/

namespace SentimentTree

open Calendar

/-- The messages dated from one day to another. -/
def messagesBetween (first last : Date) (messages : List ScoredMessage) : List ScoredMessage :=
  messages.filter fun message => first ≤ message.timestamp.date && message.timestamp.date ≤ last

theorem mem_messagesBetween {first last : Date} {messages : List ScoredMessage}
    {message : ScoredMessage} :
    message ∈ messagesBetween first last messages ↔ message ∈ messages ∧
      first ≤ message.timestamp.date ∧ message.timestamp.date ≤ last := by
  simp [messagesBetween]

private theorem messagesBetween_concat (first last : Date) (messages : List ScoredMessage)
    (message : ScoredMessage) :
    messagesBetween first last (messages ++ [message]) = messagesBetween first last messages ++
      if first ≤ message.timestamp.date ∧ message.timestamp.date ≤ last then [message] else [] := by
  simp [messagesBetween, List.filter_append, List.filter_singleton]

namespace BucketTotal

/-- The total of scores that come one after another. -/
def ofScores (start stop : Date) (scores : List Float) : BucketTotal where
  start := start
  stop := stop
  count := UInt64.ofNat scores.length
  sum := scores.foldl (· + ·) 0.0

private theorem ofScores_concat (start stop : Date) (scores : List Float) (score : Float) :
    ofScores start stop (scores ++ [score]) = (ofScores start stop scores).add score := by
  simp only [ofScores, add, List.length_append, List.length_singleton, UInt64.ofNat_add,
    List.foldl_append, List.foldl_cons, List.foldl_nil]
  rfl

@[simp] theorem add_start (total : BucketTotal) (score : Float) :
    (total.add score).start = total.start := rfl

@[simp] theorem add_stop (total : BucketTotal) (score : Float) :
    (total.add score).stop = total.stop := rfl

/-! ## One score -/

/-- In order of their first days, each day at most once. -/
def Ordered (totals : List BucketTotal) : Prop := totals.Pairwise fun a b => a.start < b.start

/-- The totals after one more score are the old ones, except that the bucket of the score takes it
or is new. -/
private theorem mem_insert {start stop : Date} {score : Float} {totals : List BucketTotal}
    (ordered : Ordered totals) (total : BucketTotal) :
    total ∈ insert start stop score totals ↔
      (total ∈ totals ∧ total.start ≠ start) ∨
      (∃ old ∈ totals, old.start = start ∧ total = old.add score) ∨
      ((∀ old ∈ totals, old.start ≠ start) ∧ total = single start stop score) := by
  induction totals with
  | nil => simp [insert]
  | cons head rest ih =>
    obtain ⟨headFirst, restOrdered⟩ := List.pairwise_cons.mp ordered
    unfold insert
    split
    · rename_i same
      subst same
      have others : ∀ other ∈ rest, other.start ≠ head.start :=
        fun other member equal => absurd (headFirst other member) (equal ▸ Int.lt_irrefl _)
      grind
    · split
      · rename_i before
        have others : ∀ other ∈ rest, other.start ≠ start := by
          intro other member equal
          have := headFirst other member
          rw [Date.lt_iff] at this before
          rw [equal] at this
          omega
        grind
      · have := ih restOrdered
        grind

/-- A new bucket is opened where it belongs. -/
theorem insert_ordered {start stop : Date} {score : Float} {totals : List BucketTotal}
    (ordered : Ordered totals) : Ordered (insert start stop score totals) := by
  induction totals with
  | nil => exact List.pairwise_singleton _ _
  | cons head rest ih =>
    obtain ⟨headFirst, restOrdered⟩ := List.pairwise_cons.mp ordered
    unfold insert
    split
    · exact List.pairwise_cons.mpr ⟨headFirst, restOrdered⟩
    · rename_i different
      split
      · rename_i before
        refine List.pairwise_cons.mpr ⟨?_, ordered⟩
        intro other member
        rcases List.mem_cons.mp member with rfl | member
        · exact before
        · exact Int.lt_trans before (headFirst other member)
      · rename_i notBefore
        refine List.pairwise_cons.mpr ⟨?_, ih restOrdered⟩
        intro other member
        rcases (mem_insert restOrdered other).mp member with
          ⟨old, _⟩ | ⟨old, oldMember, _, rfl⟩ | ⟨_, rfl⟩
        · exact headFirst other old
        · exact headFirst old oldMember
        · have distinct : head.start.number ≠ start.number :=
            fun equal => different (Date.ext_number equal)
          change ¬start.number < head.start.number at notBefore
          change head.start.number < start.number
          omega

end BucketTotal

/-! ## A whole pass -/

/-- The totals are those of the messages: a bucket for each bucket of a message and no other, in
order, with the scores of the messages between its ends. -/
structure Tallies (frequency : Frequency) (messages : List ScoredMessage)
    (totals : List BucketTotal) : Prop where
  ordered : BucketTotal.Ordered totals
  placed : ∀ message ∈ messages, ∃ total ∈ totals,
    frequency.bounds? message.timestamp.date = some (total.start, total.stop)
  occupied : ∀ total ∈ totals, ∃ message ∈ messages,
    frequency.bounds? message.timestamp.date = some (total.start, total.stop)
  scores : ∀ total ∈ totals, total = .ofScores total.start total.stop
    ((messagesBetween total.start total.stop messages).map (·.score))

namespace Tallies

variable {frequency : Frequency} {messages : List ScoredMessage} {totals : List BucketTotal}

private theorem nil (frequency : Frequency) : Tallies frequency [] [] where
  ordered := List.Pairwise.nil
  placed := by simp
  occupied := by simp
  scores := by simp

/-- The messages between the ends of a bucket are those that have it as their bucket. -/
theorem bounds?_iff (tallies : Tallies frequency messages totals) {total : BucketTotal}
    (present : total ∈ totals) (date : Date) :
    frequency.bounds? date = some (total.start, total.stop) ↔
      total.start ≤ date ∧ date ≤ total.stop := by
  obtain ⟨message, _, bounds⟩ := tallies.occupied total present
  exact Frequency.bounds?_eq_some_iff_between bounds

/-- Every bucket that is open has a message between its ends. -/
theorem between_ne_nil (tallies : Tallies frequency messages totals) {total : BucketTotal}
    (present : total ∈ totals) : messagesBetween total.start total.stop messages ≠ [] := by
  obtain ⟨message, member, bounds⟩ := tallies.occupied total present
  refine List.ne_nil_of_mem (mem_messagesBetween.mpr ⟨member, ?_⟩)
  exact (tallies.bounds?_iff present _).mp bounds

/-- Below `2 ^ 64` messages a count is the number of messages between the ends. -/
theorem count_toNat (tallies : Tallies frequency messages totals)
    (short : messages.length < 2 ^ 64) {total : BucketTotal} (present : total ∈ totals) :
    total.count.toNat = (messagesBetween total.start total.stop messages).length ∧
      0 < total.count.toNat := by
  have count := congrArg (·.count.toNat) (tallies.scores total present)
  have few : (messagesBetween total.start total.stop messages).length ≤ messages.length :=
    List.length_filter_le _ _
  have some := List.length_pos_of_ne_nil (tallies.between_ne_nil present)
  simp only [BucketTotal.ofScores, List.length_map, UInt64.toNat_ofNat'] at count
  rw [Nat.mod_eq_of_lt (by omega)] at count
  omega

section
variable {start stop : Date} {message : ScoredMessage}

private theorem stop_eq (tallies : Tallies frequency messages totals)
    (placed : frequency.bounds? message.timestamp.date = some (start, stop))
    {old : BucketTotal} (present : old ∈ totals) (same : old.start = start) :
    old.stop = stop := by
  obtain ⟨other, _, bounds⟩ := tallies.occupied old present
  rw [same] at bounds
  exact Frequency.last_eq_of_bounds? bounds placed

private theorem insert_placed (tallies : Tallies frequency messages totals)
    (placed : frequency.bounds? message.timestamp.date = some (start, stop)) :
    ∀ other ∈ messages ++ [message],
      ∃ total ∈ BucketTotal.insert start stop message.score totals,
        frequency.bounds? other.timestamp.date = some (total.start, total.stop) := by
  have kept : ∀ total ∈ totals, ∃ next ∈ BucketTotal.insert start stop message.score totals,
      next.start = total.start ∧ next.stop = total.stop := by
    intro total present
    by_cases same : total.start = start
    · exact ⟨total.add message.score, (BucketTotal.mem_insert tallies.ordered _).mpr
        (.inr (.inl ⟨total, present, same, rfl⟩)), rfl, rfl⟩
    · exact ⟨total, (BucketTotal.mem_insert tallies.ordered _).mpr (.inl ⟨present, same⟩), rfl, rfl⟩
  intro other member
  rcases List.mem_append.mp member with earlier | latest
  · obtain ⟨total, present, bounds⟩ := tallies.placed other earlier
    obtain ⟨next, nextPresent, sameStart, sameStop⟩ := kept total present
    exact ⟨next, nextPresent, by rw [sameStart, sameStop]; exact bounds⟩
  · obtain rfl := List.mem_singleton.mp latest
    by_cases opened : ∃ old ∈ totals, old.start = start
    · obtain ⟨old, present, same⟩ := opened
      obtain ⟨next, nextPresent, sameStart, sameStop⟩ := kept old present
      refine ⟨next, nextPresent, ?_⟩
      rw [sameStart, sameStop, same, tallies.stop_eq placed present same]
      exact placed
    · refine ⟨BucketTotal.single start stop other.score, ?_, placed⟩
      refine (BucketTotal.mem_insert tallies.ordered _).mpr (.inr (.inr ⟨?_, rfl⟩))
      exact fun old present same => opened ⟨old, present, same⟩

private theorem insert_occupied (tallies : Tallies frequency messages totals)
    (placed : frequency.bounds? message.timestamp.date = some (start, stop)) :
    ∀ total ∈ BucketTotal.insert start stop message.score totals,
      ∃ other ∈ messages ++ [message],
        frequency.bounds? other.timestamp.date = some (total.start, total.stop) := by
  intro total present
  rcases (BucketTotal.mem_insert tallies.ordered total).mp present with
    ⟨old, _⟩ | ⟨old, oldPresent, _, rfl⟩ | ⟨_, rfl⟩
  · obtain ⟨other, member, bounds⟩ := tallies.occupied total old
    exact ⟨other, List.mem_append_left _ member, bounds⟩
  · obtain ⟨other, member, bounds⟩ := tallies.occupied old oldPresent
    exact ⟨other, List.mem_append_left _ member, bounds⟩
  · exact ⟨message, List.mem_append_right _ List.mem_cons_self, placed⟩

private theorem insert_scores (tallies : Tallies frequency messages totals)
    (placed : frequency.bounds? message.timestamp.date = some (start, stop)) :
    ∀ total ∈ BucketTotal.insert start stop message.score totals,
      total = .ofScores total.start total.stop
        ((messagesBetween total.start total.stop (messages ++ [message])).map (·.score)) := by
  intro total present
  obtain ⟨low, high⟩ := (Frequency.bounds?_eq_some_iff_between placed).mp placed
  rcases (BucketTotal.mem_insert tallies.ordered total).mp present with
    ⟨old, different⟩ | ⟨old, oldPresent, same, rfl⟩ | ⟨unopened, rfl⟩
  · have outside : ¬(total.start ≤ message.timestamp.date ∧
        message.timestamp.date ≤ total.stop) := by
      intro inside
      have shared := (tallies.bounds?_iff old _).mpr inside
      exact different (Prod.mk.inj (Option.some.inj (shared.symm.trans placed))).1
    rw [messagesBetween_concat, if_neg outside, List.append_nil]
    exact tallies.scores total old
  · have stops := tallies.stop_eq placed oldPresent same
    rw [BucketTotal.add_start, BucketTotal.add_stop, messagesBetween_concat,
      if_pos ⟨same ▸ low, stops ▸ high⟩, List.map_append, List.map_singleton,
      BucketTotal.ofScores_concat, ← tallies.scores old oldPresent]
  · have empty : messagesBetween start stop messages = [] := by
      refine List.eq_nil_iff_forall_not_mem.mpr ?_
      intro other member
      obtain ⟨earlier, inside⟩ := mem_messagesBetween.mp member
      obtain ⟨old, oldPresent, bounds⟩ := tallies.placed other earlier
      have shared := (Frequency.bounds?_eq_some_iff_between placed).mpr inside
      exact unopened old oldPresent
        (Prod.mk.inj (Option.some.inj (bounds.symm.trans shared))).1
    change BucketTotal.single start stop message.score = .ofScores start stop
      ((messagesBetween start stop (messages ++ [message])).map (·.score))
    rw [messagesBetween_concat, if_pos ⟨low, high⟩, empty]
    rfl

/-- One more message keeps the totals those of the messages. -/
theorem insert (tallies : Tallies frequency messages totals)
    (placed : frequency.bounds? message.timestamp.date = some (start, stop)) :
    Tallies frequency (messages ++ [message])
      (BucketTotal.insert start stop message.score totals) where
  ordered := BucketTotal.insert_ordered tallies.ordered
  placed := tallies.insert_placed placed
  occupied := tallies.insert_occupied placed
  scores := tallies.insert_scores placed

end

end Tallies

theorem ScoredMessage.place_eq_ok_iff (frequency : Frequency) (position : Nat)
    (message : ScoredMessage) (bounds : Date × Date) :
    message.place frequency position = .ok bounds ↔
      Numeric.inUnit message.score = true ∧
        frequency.bounds? message.timestamp.date = some bounds := by
  unfold ScoredMessage.place
  cases Numeric.inUnit message.score <;>
    cases frequency.bounds? message.timestamp.date <;> simp

private theorem collectFrom_tallies {frequency : Frequency} {position : Nat}
    {earlier messages : List ScoredMessage} {totals result : List BucketTotal}
    (tallies : Tallies frequency earlier totals)
    (collected : collectFrom frequency position totals messages = .ok result) :
    Tallies frequency (earlier ++ messages) result := by
  induction messages generalizing position earlier totals with
  | nil =>
    cases collected
    rw [List.append_nil]
    exact tallies
  | cons message rest ih =>
    unfold collectFrom at collected
    split at collected
    · contradiction
    · rename_i start stop placing
      have placed := (message.place_eq_ok_iff _ _ _).mp placing |>.2
      rw [List.append_cons]
      exact ih (tallies.insert placed) collected

/-- A pass that is not stopped yields the totals of its messages. -/
theorem collect_tallies {frequency : Frequency} {messages : List ScoredMessage}
    {totals : List BucketTotal} (collected : collect frequency messages = .ok totals) :
    Tallies frequency messages totals :=
  collectFrom_tallies (.nil frequency) collected

/-- No message of a completed pass has a score outside the unit interval. -/
theorem collect_inUnit {frequency : Frequency} {messages : List ScoredMessage}
    {totals : List BucketTotal} (collected : collect frequency messages = .ok totals) :
    ∀ message ∈ messages, Numeric.inUnit message.score = true := by
  unfold collect at collected
  generalize 1 = position, [] = earlier at collected
  induction messages generalizing position earlier with
  | nil => simp
  | cons message rest ih =>
    unfold collectFrom at collected
    split at collected
    · cases collected
    · rename_i start stop placed
      obtain ⟨unit, _⟩ := (message.place_eq_ok_iff frequency position _).mp placed
      intro other member
      rcases List.mem_cons.mp member with rfl | member
      · exact unit
      · exact ih _ _ collected other member

/-! ## The buckets of the totals -/

/-- The first and the last day of a total. -/
def BucketTotal.period (total : BucketTotal) : Date × Date := (total.start, total.stop)

namespace Tallies

variable {frequency : Frequency} {messages : List ScoredMessage} {totals : List BucketTotal}

/-- The totals are in order of time: each ends before the next one starts. -/
theorem periods_ordered (tallies : Tallies frequency messages totals) :
    (totals.map (·.period)).Pairwise fun a b => a.2 < b.1 := by
  rw [List.pairwise_map]
  refine tallies.ordered.imp_of_mem fun {a b} first second before => ?_
  obtain ⟨_, _, placed⟩ := tallies.occupied a first
  obtain ⟨_, _, placed'⟩ := tallies.occupied b second
  exact Frequency.last_lt_first_of_lt placed placed' before

/-- The totals are the buckets that dates fall into, each once. -/
theorem periods_perm (tallies : Tallies frequency messages totals) :
    (totals.map (·.period)).Perm
      (messages.filterMap fun message => frequency.bounds? message.timestamp.date).dedup := by
  have distinct : (totals.map (·.period)).Nodup := by
    rw [List.Nodup, List.pairwise_map]
    refine tallies.ordered.imp fun {a b} before same => ?_
    exact Date.ne_of_lt before (congrArg Prod.fst same)
  refine (List.perm_ext_iff_of_nodup distinct (List.nodup_dedup _)).mpr fun bounds => ?_
  rw [List.mem_dedup, List.mem_map, List.mem_filterMap]
  constructor
  · rintro ⟨total, present, rfl⟩
    exact tallies.occupied total present
  · rintro ⟨message, member, placed⟩
    obtain ⟨total, present, own⟩ := tallies.placed message member
    exact ⟨total, present, Option.some.inj (own.symm.trans placed)⟩

/-- A total counts the dates that fall into its bucket. -/
theorem count_eq (tallies : Tallies frequency messages totals)
    (short : messages.length < 2 ^ 64) {total : BucketTotal} (present : total ∈ totals) :
    total.count.toNat =
      (messages.filterMap fun message => frequency.bounds? message.timestamp.date).count
        total.period := by
  rw [(tallies.count_toNat short present).1, List.count_filterMap, messagesBetween,
    ← List.countP_eq_length_filter]
  refine List.countP_congr fun message _ => ?_
  simp only [beq_iff_eq, Bool.and_eq_true, decide_eq_true_eq]
  exact (tallies.bounds?_iff present _).symm

/-- No message is without a bucket. -/
theorem length_periods (tallies : Tallies frequency messages totals) :
    (messages.filterMap fun message => frequency.bounds? message.timestamp.date).length =
      messages.length := by
  refine List.filterMap_length_eq_length.mpr fun message member => ?_
  obtain ⟨total, _, placed⟩ := tallies.placed message member
  rw [placed]
  rfl

/-- Below `2 ^ 64` messages the counts of the totals add up to them. -/
theorem sum_count (tallies : Tallies frequency messages totals)
    (short : messages.length < 2 ^ 64) :
    (totals.map (·.count.toNat)).sum = messages.length := by
  have counts := List.map_congr_left fun (total : BucketTotal) (present : total ∈ totals) =>
    tallies.count_eq short present
  rw [counts, ← tallies.length_periods]
  have sum := (tallies.periods_perm.map fun period => (messages.filterMap fun message =>
    frequency.bounds? message.timestamp.date).count period).sum_eq
  rw [List.map_map] at sum
  refine sum.trans ?_
  convert List.sum_map_count_dedup_eq_length (messages.filterMap fun message =>
    frequency.bounds? message.timestamp.date)
  rfl

end Tallies

end SentimentTree
