import SentimentTree.Proofs.Classifier.Contract

/-! # How often a batch is sent

A server is told by what it makes of one request after the other. `HttpOutcome.Brings` says when
that is of use, `ServerSettings.Fails` what is wrong with it otherwise. A batch is sent until
something of use comes back, and no more often than the settings allow; what is sent stays the same.
-/

namespace SentimentTree

variable {σ : Type} {expected : Nat} {outcome : HttpOutcome} {verdicts : List Classification}
  {problem : AttemptProblem}

/-! ## Outcomes of use -/

/-- What an outcome brings for so many texts: it is a success with a chat reply, whose content is an
answer that has a verdict for each of them. -/
inductive HttpOutcome.Brings (expected : Nat) : HttpOutcome → List Classification → Prop
  | reply {status : Nat} {body content : String} {reply : Json} {verdicts : List Classification}
      (success : 200 ≤ status ∧ status < 300) (parsed : Json.parse? body.toList = some reply)
      (chat : replyContent? reply = some content)
      (read : (readAnswer expected content.toList).2 = .ok verdicts) :
      Brings expected (.reply status body) verdicts

namespace ServerSettings

/-- What is wrong with an outcome that is of no use: the request got no reply, or the reply is no
success, is no chat reply, or has a content that is no answer about the texts. -/
inductive Fails (settings : ServerSettings) (expected : Nat) : HttpOutcome → AttemptProblem → Prop
  | timedOut : Fails settings expected .timedOut (.timedOut settings.timeoutSeconds)
  | unreachable : Fails settings expected .unreachable (.unreachable settings.url)
  | notSent : Fails settings expected .notSent .notSent
  | refused {status : Nat} {body : String} (refused : ¬(200 ≤ status ∧ status < 300)) :
      Fails settings expected (.reply status body) (.refused status (withoutMark body))
  | unreadable {status : Nat} {body : String} (success : 200 ≤ status ∧ status < 300)
      (other : ∀ reply content, Json.parse? body.toList = some reply →
        replyContent? reply ≠ some content) :
      Fails settings expected (.reply status body) .unreadableReply
  | answer {status : Nat} {body content : String} {reply : Json} {problem : AnswerProblem}
      (success : 200 ≤ status ∧ status < 300) (parsed : Json.parse? body.toList = some reply)
      (chat : replyContent? reply = some content)
      (refused : (readAnswer expected content.toList).2 = .error problem) :
      Fails settings expected (.reply status body) (.answer problem)

variable {settings : ServerSettings}

theorem contentOf_chat {status : Nat} {body content : String} {reply : Json}
    (success : 200 ≤ status ∧ status < 300) (parsed : Json.parse? body.toList = some reply)
    (chat : replyContent? reply = some content) :
    settings.contentOf (.reply status body) = .ok content := by
  simp only [contentOf, if_pos success, parsed, Option.bind_some, chat]

/-- An outcome of use brings its verdicts, whatever the settings are. -/
private theorem verdictsOf_of_brings (brings : outcome.Brings expected verdicts) :
    (settings.verdictsOf expected outcome).2 = .ok verdicts := by
  obtain ⟨success, parsed, chat, read⟩ := brings
  rw [verdictsOf, contentOf_chat success parsed chat]
  dsimp only
  split
  · rename_i found answered
    rw [answered] at read
    exact congrArg Except.ok (Except.ok.inj read)
  · rename_i failed answered
    rw [answered] at read
    nomatch read

private theorem verdictsOf_of_fails (fails : settings.Fails expected outcome problem) :
    (settings.verdictsOf expected outcome).2 = .error problem := by
  cases fails with
  | timedOut | unreachable | notSent => rfl
  | refused refused => simp only [verdictsOf, contentOf, if_neg refused]
  | unreadable success other =>
    have none : (Json.parse? _).bind replyContent? = none :=
      Option.bind_eq_none_iff.mpr fun reply parsed =>
        Option.eq_none_iff_forall_ne_some.mpr fun content => other reply content parsed
    simp only [verdictsOf, contentOf, if_pos success, none]
  | answer success parsed chat refused =>
    rw [verdictsOf, contentOf_chat success parsed chat]
    dsimp only
    split
    · rename_i found answered
      rw [answered] at refused
      nomatch refused
    · rename_i failed answered
      rw [answered] at refused
      rw [Except.error.inj refused]

/-- An outcome is of use or fails. -/
theorem brings_or_fails (settings : ServerSettings) (expected : Nat) (outcome : HttpOutcome) :
    (∃ verdicts, outcome.Brings expected verdicts) ∨
      ∃ problem, settings.Fails expected outcome problem := by
  cases outcome with
  | timedOut => exact .inr ⟨_, .timedOut⟩
  | unreachable => exact .inr ⟨_, .unreachable⟩
  | notSent => exact .inr ⟨_, .notSent⟩
  | reply status body =>
    by_cases success : 200 ≤ status ∧ status < 300
    · by_cases chat : ∃ reply content, Json.parse? body.toList = some reply ∧
        replyContent? reply = some content
      · obtain ⟨reply, content, parsed, chat⟩ := chat
        cases read : (readAnswer expected content.toList).2 with
        | ok verdicts => exact .inl ⟨verdicts, .reply success parsed chat read⟩
        | error problem => exact .inr ⟨_, .answer success parsed chat read⟩
      · exact .inr ⟨_, .unreadable success fun reply content parsed found =>
          chat ⟨reply, content, parsed, found⟩⟩
    · exact .inr ⟨_, .refused success⟩

theorem verdictsOf_eq_ok_iff :
    (settings.verdictsOf expected outcome).2 = .ok verdicts ↔ outcome.Brings expected verdicts := by
  refine ⟨fun usable => ?_, verdictsOf_of_brings⟩
  rcases settings.brings_or_fails expected outcome with ⟨others, brings⟩ | ⟨problem, fails⟩
  · rw [verdictsOf_of_brings brings] at usable
    rwa [← Except.ok.inj usable]
  · nomatch (verdictsOf_of_fails fails).symm.trans usable

/-! ## Requests -/

variable (settings)

/-- What becomes of the attempts when a server answers one request after the other: without an
address to send to, it is never reached. -/
def fate (outcomes : Nat → HttpOutcome) (attempt : Nat) : HttpOutcome :=
  if (WebAddress.read? settings.chatUrl).isSome then outcomes attempt else .notSent

/-- The requests of so many attempts at a batch, all of them the same. -/
def requests (texts : List String) (attempts : Nat) : List (WebAddress × Json) :=
  match WebAddress.read? settings.chatUrl with
  | some address => List.replicate attempts (address, settings.chatRequest texts)
  | none => []

private theorem requests_zero (texts : List String) : settings.requests texts 0 = [] := by
  unfold requests
  cases WebAddress.read? settings.chatUrl <;> rfl

end ServerSettings

/-- A server that answers one request after the other, which are kept beside whatever becomes of the
log. -/
def serving (outcomes : Nat → HttpOutcome) (log : LogLine → StateM σ Unit) :
    Wire (StateM (σ × List (WebAddress × Json))) where
  post address body := fun (state, sent) =>
    (outcomes sent.length, state, sent ++ [(address, body)])
  log line := fun (state, sent) => ((), (log line state).2, sent)

namespace Wire

variable (outcomes : Nat → HttpOutcome) (log : LogLine → StateM σ Unit) (settings : ServerSettings)
  (texts : List String)

private theorem send_serving (state : σ) (made : Nat) :
    (serving outcomes log).send settings (settings.chatRequest texts)
        (state, settings.requests texts made) =
      (settings.fate outcomes made, state, settings.requests texts (made + 1)) := by
  unfold send ServerSettings.fate ServerSettings.requests
  cases WebAddress.read? settings.chatUrl with
  | none => rfl
  | some address => simp [serving, List.replicate_succ']

/-- Remarks send nothing. -/
theorem forM_log_serving (remarks : List String) (state : σ) (sent : List (WebAddress × Json)) :
    (remarks.forM fun remark => (serving outcomes log).log ⟨.debug, remark⟩) (state, sent) =
      ((), ((remarks.forM fun remark => log ⟨.debug, remark⟩) state).2, sent) := by
  induction remarks generalizing state with
  | nil => rfl
  | cons remark rest ih => exact ih (log ⟨.debug, remark⟩ state).2

/-- One attempt sends one request, and what becomes of it is the end or leads to the next. -/
private theorem tryFrom_serving_succ (attempt : Nat) (last : Option AttemptProblem) (more : Nat)
    (state : σ) (made : Nat) :
    ∃ next, (serving outcomes log).tryFrom settings texts attempt last (more + 1)
        (state, settings.requests texts made) =
      match (settings.verdictsOf texts.length (settings.fate outcomes made)).2 with
      | .ok verdicts => (.ok verdicts, next, settings.requests texts (made + 1))
      | .error problem => (serving outcomes log).tryFrom settings texts (attempt + 1) (some problem)
          more (next, settings.requests texts (made + 1)) := by
  rw [tryFrom]
  simp only [bind, StateT.bind]
  have announced (line : LogLine) : (serving outcomes log).log line
      (state, settings.requests texts made) =
        ((), (log line state).2, settings.requests texts made) := rfl
  rw [announced]
  dsimp only
  rw [send_serving]
  dsimp only
  generalize settings.verdictsOf texts.length (settings.fate outcomes made) = told
  obtain ⟨remarks, result⟩ := told
  dsimp only
  rw [forM_log_serving]
  cases result with
  | ok verdicts => exact ⟨_, rfl⟩
  | error problem => exact ⟨_, rfl⟩

/-- After so many attempts that have failed, the next one is made, and the last problem is kept. -/
private theorem tryFrom_serving_failing (failing more : Nat) (state : σ)
    (fail : ∀ attempt < failing, ∃ problem,
      settings.Fails texts.length (settings.fate outcomes attempt) problem) :
    ∃ next kept, (serving outcomes log).tryFrom settings texts 1 none (failing + more)
        (state, []) =
      (serving outcomes log).tryFrom settings texts (1 + failing) kept more
        (next, settings.requests texts failing) ∧
      ∀ before, failing = before + 1 → ∃ problem, kept = some problem ∧
        settings.Fails texts.length (settings.fate outcomes before) problem := by
  induction failing generalizing more with
  | zero =>
    rw [Nat.zero_add, settings.requests_zero]
    exact ⟨state, none, rfl, nofun⟩
  | succ before ih =>
    -- the last failure is the first of the attempts that are left after the others
    obtain ⟨next, kept, same, -⟩ := ih (more + 1) fun attempt earlier =>
      fail attempt (Nat.lt_succ_of_lt earlier)
    obtain ⟨problem, fails⟩ := fail before (Nat.lt_succ_self before)
    obtain ⟨last, step⟩ :=
      tryFrom_serving_succ outcomes log settings texts (1 + before) kept more next before
    rw [ServerSettings.verdictsOf_of_fails fails] at step
    refine ⟨last, some problem, ?_, ?_⟩
    · rw [Nat.add_right_comm, Nat.add_assoc, same, step, Nat.add_assoc]
    · rintro _ ⟨⟩
      exact ⟨problem, rfl, fails⟩

/-- The first outcome of use ends the attempts. -/
private theorem tryFrom_serving_brings {before : Nat} (more : Nat) (state : σ)
    (fail : ∀ attempt < before, ∃ problem,
      settings.Fails texts.length (settings.fate outcomes attempt) problem)
    (brings : (settings.fate outcomes before).Brings texts.length verdicts) :
    ∃ next, (serving outcomes log).tryFrom settings texts 1 none (before + (more + 1))
      (state, []) = (.ok verdicts, next, settings.requests texts (before + 1)) := by
  obtain ⟨next, kept, same, -⟩ :=
    tryFrom_serving_failing outcomes log settings texts before (more + 1) state fail
  obtain ⟨last, step⟩ :=
    tryFrom_serving_succ outcomes log settings texts (1 + before) kept more next before
  rw [ServerSettings.verdictsOf_of_brings brings] at step
  exact ⟨last, same.trans step⟩

/-- Without an outcome of use the last problem is reported. -/
private theorem tryFrom_serving_exhausted (last : Nat) (state : σ)
    (fail : ∀ attempt ≤ last, ∃ problem,
      settings.Fails texts.length (settings.fate outcomes attempt) problem) :
    ∃ next problem, settings.Fails texts.length (settings.fate outcomes last) problem ∧
      (serving outcomes log).tryFrom settings texts 1 none (last + 1) (state, []) =
        (.error (settings.givingUp (some problem)), next, settings.requests texts (last + 1)) := by
  obtain ⟨next, kept, same, problems⟩ := tryFrom_serving_failing outcomes log settings texts
    (last + 1) 0 state fun attempt early => fail attempt (Nat.le_of_lt_succ early)
  obtain ⟨problem, rfl, fails⟩ := problems last rfl
  exact ⟨next, problem, fails, same⟩

end Wire

/-- A batch is sent until an outcome is of use, which gives the verdicts. If none is, it has been
sent once and then as often as a failed request is to be repeated, and the problem of the last
attempt is reported. The requests do not differ. Nothing is sent for an empty batch. -/
theorem Wire.classify_attempts (outcomes : Nat → HttpOutcome) (log : LogLine → StateM σ Unit)
    (settings : ServerSettings) (texts : List String) (start : σ)
    (countable : settings.retries < 2 ^ 64 - 1) :
    let run := (serving outcomes log).classify settings texts (start, [])
    let fate := settings.fate outcomes
    (texts = [] → run.1 = .ok [] ∧ run.2.2 = []) ∧
    (texts ≠ [] →
      (∀ before ≤ settings.retries,
        (∀ earlier < before, ∀ others, ¬(fate earlier).Brings texts.length others) →
        ∀ verdicts, (fate before).Brings texts.length verdicts →
          run.1 = .ok verdicts ∧ run.2.2 = settings.requests texts (before + 1)) ∧
      ((∀ attempt ≤ settings.retries, ∀ verdicts, ¬(fate attempt).Brings texts.length verdicts) →
        ∃ problem, settings.Fails texts.length (fate settings.retries) problem ∧
          run.1 = .error ["giving up after " ++ toString (settings.retries + 1) ++ " attempts",
            problem.message] ∧
          run.2.2 = settings.requests texts (settings.retries + 1))) := by
  intro run fate
  have attempts : settings.attempts = settings.retries + 1 :=
    Nat.mod_eq_of_lt (Nat.add_lt_of_lt_sub countable)
  have fails {attempt : Nat}
      (useless : ∀ verdicts, ¬(fate attempt).Brings texts.length verdicts) :
      ∃ problem, settings.Fails texts.length (fate attempt) problem :=
    (settings.brings_or_fails texts.length (fate attempt)).resolve_left
      fun ⟨verdicts, brings⟩ => useless verdicts brings
  have unsent (empty : texts = []) : run = (.ok [], start, []) :=
    congrFun (if_pos (List.isEmpty_iff.mpr empty)) (start, [])
  have tried (some : texts ≠ []) :
      run = (serving outcomes log).tryFrom settings texts 1 none (settings.retries + 1)
        (start, []) := by
    rw [← attempts]
    exact congrFun (if_neg (mt List.isEmpty_iff.mp some)) _
  -- from here on only these two readings of the run count
  clear_value run
  refine ⟨fun empty => ?_, fun some => ⟨fun before few earlier verdicts brings => ?_,
    fun useless => ?_⟩⟩
  · rw [unsent empty]
    exact ⟨rfl, rfl⟩
  · obtain ⟨next, ended⟩ := Wire.tryFrom_serving_brings outcomes log settings texts
      (settings.retries - before) start (fun attempt early => fails (earlier attempt early)) brings
    rw [show before + (settings.retries - before + 1) = settings.retries + 1 by omega,
      ← tried some] at ended
    simp only [ended, and_self]
  · obtain ⟨next, problem, last, ended⟩ := Wire.tryFrom_serving_exhausted outcomes log settings
      texts settings.retries start fun attempt early => fails (useless attempt early)
    rw [← tried some, ServerSettings.givingUp, attempts] at ended
    refine ⟨problem, last, ?_⟩
    simp only [ended, and_self]

/-- A reply of no success is of no use. -/
private theorem HttpOutcome.not_brings_of_status {status : Nat} {body : String}
    (refused : ¬(200 ≤ status ∧ status < 300)) (verdicts : List Classification) :
    ¬(HttpOutcome.reply status body).Brings expected verdicts := by
  rintro ⟨success, -, -, -⟩
  exact refused success

/-- The first attempt is refused; the second is of use, or none ever is. -/
theorem Wire.classify_attempts_patient :
    let silent : LogLine → StateM Unit Unit := fun _ => pure ()
    let busy := HttpOutcome.reply 503 "loading"
    patient.retries < 2 ^ 64 - 1 ∧ (patient.requests ["good news"] 2).length = 2 ∧
    (let run := (serving (slowReplies.getD · busy) silent).classify patient ["good news"] ((), [])
     run.1 = .ok [⟨.positive, 1.0⟩] ∧ run.2.2 = patient.requests ["good news"] 2) ∧
    let run := (serving (fun _ => busy) silent).classify patient ["good news"] ((), [])
    run.1 = .error ["giving up after 2 attempts",
        "Ollama API error 503 Service Unavailable: loading"] ∧
      run.2.2 = patient.requests ["good news"] 2 := by
  intro silent busy
  have useless (verdicts : List Classification) : ¬busy.Brings 1 verdicts :=
    HttpOutcome.not_brings_of_status (by decide) verdicts
  have first : patient.fate (slowReplies.getD · busy) 0 = busy := by decide +kernel
  have second : (patient.fate (slowReplies.getD · busy) 1).Brings 1 [⟨.positive, 1.0⟩] :=
    ServerSettings.verdictsOf_eq_ok_iff.mp (by decide +kernel : (patient.verdictsOf 1 _).2 = _)
  have always (attempt : Nat) : patient.fate (fun _ => busy) attempt = busy :=
    if_pos (by decide +kernel)
  obtain ⟨-, answered⟩ := classify_attempts (slowReplies.getD · busy) silent patient ["good news"]
    () (by decide)
  obtain ⟨-, refused⟩ := classify_attempts (fun _ => busy) silent patient ["good news"] ()
    (by decide)
  refine ⟨by decide, by decide +kernel, ?_, ?_⟩
  · have earlier : ∀ attempt < 1, ∀ others,
        ¬(patient.fate (slowReplies.getD · busy) attempt).Brings 1 others := by
      intro attempt early others
      obtain rfl := Nat.lt_one_iff.mp early
      rw [first]
      exact useless others
    exact (answered (List.cons_ne_nil _ _)).1 1 le_rfl earlier _ second
  · have never (attempt : Nat) (_ : attempt ≤ patient.retries) (others : List Classification) :
        ¬(patient.fate (fun _ => busy) attempt).Brings 1 others := by
      rw [always]
      exact useless others
    obtain ⟨problem, fails, given, sent⟩ := (refused (List.cons_ne_nil _ _)).2 never
    rw [always] at fails
    have same : problem = .refused 503 (withoutMark "loading") :=
      Except.error.inj ((ServerSettings.verdictsOf_of_fails fails).symm.trans
        (ServerSettings.verdictsOf_of_fails (.refused (by decide))))
    rw [same] at given
    exact ⟨given.trans (by decide +kernel), sent⟩

end SentimentTree
