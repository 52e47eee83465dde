import Registrar.Ecr
import Registrar.Proofs.Keeping
import Registrar.Proofs.Protocol
import Registrar.Proofs.Sequence
import Registrar.Session

/- What a service that refuses a request is understood to say. The code it gives is kept, whatever else
   is made of it. An error of the remote that a pass ends in is the meaning of the last reply, and its
   code is all that decides whether retries stop: neither the operation nor the message counts. Some
   errors a pass does not end in: reading back makes a failure of its own of a repository that is not
   found, and that one has no code. -/
namespace Registrar

/-- What is promised of the error that an operation is refused with, by the code it is refused with.
    Three codes have a meaning of their own, each for two operations; any other is passed on. -/
structure RemoteError.Classified (op : Operation) (code : String) (e : RemoteError) : Prop where
  kept : e.code = code
  noRepository : (∃ text, e = .noRepository text) ↔
    (op = .describe ∨ op = .delete) ∧ code = "RepositoryNotFoundException"
  noLifecycle : (∃ text, e = .noLifecycle text) ↔
    (op = .getLifecycle ∨ op = .deleteLifecycle) ∧ code = "LifecyclePolicyNotFoundException"
  noPolicy : (∃ text, e = .noPolicy text) ↔
    (op = .getPolicy ∨ op = .deletePolicy) ∧ code = "RepositoryPolicyNotFoundException"
  service : (∃ message, e = .service code message) ↔
    (¬ ∃ text, e = .noRepository text) ∧ (¬ ∃ text, e = .noLifecycle text) ∧
      ¬ ∃ text, e = .noPolicy text

theorem RemoteError.isNoRepository_iff (e : RemoteError) :
    e.isNoRepository = true ↔ ∃ text, e = .noRepository text := by
  cases e <;> simp [isNoRepository]

namespace Ecr

def codeSaid (body : Json) : String := (faultCode? body).getD "Unknown"

def Reply.code? : Reply → Option String
  | .ok _ => none
  | .fault body => some (codeSaid body)
  | .disconnected _ | .timedOut _ => some "TransportError"

section
variable {op : Operation} {code message : String} {e : RemoteError}

theorem service_classified (message : String)
    (repository : ¬ ((op = .describe ∨ op = .delete) ∧ code = "RepositoryNotFoundException"))
    (lifecycle : ¬ ((op = .getLifecycle ∨ op = .deleteLifecycle) ∧
      code = "LifecyclePolicyNotFoundException"))
    (policy : ¬ ((op = .getPolicy ∨ op = .deletePolicy) ∧
      code = "RepositoryPolicyNotFoundException")) :
    (RemoteError.service code message).Classified op code where
  kept := rfl
  noRepository := iff_of_false (by simp) repository
  noLifecycle := iff_of_false (by simp) lifecycle
  noPolicy := iff_of_false (by simp) policy
  service := iff_of_true ⟨message, rfl⟩ (by simp)

theorem noRepository_classified (text : String) (seeks : op = .describe ∨ op = .delete) :
    (RemoteError.noRepository text).Classified op "RepositoryNotFoundException" := by
  constructor <;> simp [RemoteError.code, RemoteError.noRepositoryCode, seeks]

theorem noLifecycle_classified (text : String) (seeks : op = .getLifecycle ∨ op = .deleteLifecycle) :
    (RemoteError.noLifecycle text).Classified op "LifecyclePolicyNotFoundException" := by
  constructor <;> simp [RemoteError.code, RemoteError.noLifecycleCode, seeks]

theorem noPolicy_classified (text : String) (seeks : op = .getPolicy ∨ op = .deletePolicy) :
    (RemoteError.noPolicy text).Classified op "RepositoryPolicyNotFoundException" := by
  constructor <;> simp [RemoteError.code, RemoteError.noPolicyCode, seeks]

theorem known_classified {meant : String} (own : e.Classified op meant)
    (other : code ≠ meant → (RemoteError.service code message).Classified op code) :
    (if code = meant then e else .service code message).Classified op code := by
  split <;> rename_i same
  · rw [same]
    exact own
  · exact other same

theorem serviceError_classified (q : Request) (code message : String) :
    (serviceError q code message).Classified q.operation code := by
  cases q with
  | describe registryId names =>
    exact known_classified (noRepository_classified _ (.inl rfl)) fun other =>
      service_classified message (fun h => other h.2) (by simp) (by simp)
  | delete t force =>
    exact known_classified (noRepository_classified _ (.inr rfl)) fun other =>
      service_classified message (fun h => other h.2) (by simp) (by simp)
  | getLifecycle t =>
    exact known_classified (noLifecycle_classified _ (.inl rfl)) fun other =>
      service_classified message (by simp) (fun h => other h.2) (by simp)
  | deleteLifecycle t =>
    exact known_classified (noLifecycle_classified _ (.inr rfl)) fun other =>
      service_classified message (by simp) (fun h => other h.2) (by simp)
  | getPolicy t =>
    exact known_classified (noPolicy_classified _ (.inl rfl)) fun other =>
      service_classified message (by simp) (by simp) fun h => other h.2
  | deletePolicy t =>
    exact known_classified (noPolicy_classified _ (.inr rfl)) fun other =>
      service_classified message (by simp) (by simp) fun h => other h.2
  | _ => exact service_classified message (by simp) (by simp) (by simp)

theorem refused_classified (q : Request) (body : Json) :
    (refused q body).Classified q.operation (codeSaid body) := by
  cases said : faultCode? body with
  | none =>
    rw [refused, codeSaid, said]
    exact service_classified "" (by simp) (by simp) (by simp)
  | some code =>
    rw [refused, codeSaid, said]
    exact serviceError_classified q code _

end

section
variable {q : Request} {reply : Reply} {e : RemoteError}

theorem interpret_code (refusal : interpret q reply = .error e) : reply.code? = some e.code := by
  cases reply with
  | ok body => cases refusal
  | fault body =>
    cases refusal
    exact congrArg some (refused_classified q body).kept.symm
  | disconnected text =>
    cases refusal
    rfl
  | timedOut text =>
    cases refusal
    rfl

theorem interpret_transport (refusal : interpret q reply = .error e) :
    (∃ text, e = .transport text) ↔ ∀ body, reply ≠ .fault body := by
  cases reply with
  | ok body => cases refusal
  | fault body =>
    cases refusal
    refine iff_of_false ?_ fun other => other body rfl
    rintro ⟨text, same⟩
    have classified := refused_classified q body
    rw [same] at classified
    -- What is none of the three with a meaning of their own is passed on, so it is no transport error.
    have passed := classified.service.mpr ⟨by simp, by simp, by simp⟩
    obtain ⟨message, other⟩ := passed
    cases other
  | disconnected text =>
    cases refusal
    exact iff_of_true ⟨_, rfl⟩ (by simp)
  | timedOut text =>
    cases refusal
    exact iff_of_true ⟨_, rfl⟩ (by simp)

end

def replyAt (replies : List Reply) (i : Nat) : Reply := replies.getD i (.disconnected "no reply")

theorem answer_interprets {replies u : List Reply} {xs : List Exchange}
    (replays : Replays remote replies xs u) {i : Nat} {x : Exchange} (made : xs[i]? = some x) :
    x.answer = interpret x.request (replyAt replies i) := by
  induction replays generalizing i with
  | nil => cases made
  | @cons s u t y ys answer rest ih =>
    cases s with
    | nil =>
      obtain ⟨answered, rfl⟩ := Prod.mk.inj answer
      cases i with
      | zero =>
        cases made
        exact answered.symm
      | succ i =>
        have later := ih (show ys[i]? = some x from made)
        exact later
    | cons reply replies =>
      obtain ⟨answered, rfl⟩ := Prod.mk.inj answer
      cases i with
      | zero =>
        cases made
        exact answered.symm
      | succ i => exact ih (show ys[i]? = some x from made)

end Ecr

def Reports (xs : List Exchange) (res : Except Failure α) : Prop :=
  ∀ e, res = .error (.remote e) → ∃ before q, xs = before ++ [⟨q, .error e⟩]

section
variable {σ α : Type} {remote : Remote σ} {limit : Option Nat} {made : Nat} {s t : σ}
  {xs : List Exchange} {settings : Settings}

theorem FailFast.reports {qs : List Request} {stop : Failure}
    (run : FailFast limit qs xs (some stop)) : Reports (α := α) xs (.error stop) := by
  intro e failed
  cases failed
  exact run.last_refused rfl

theorem Reports.after {res : Except Failure α} (reports : Reports xs res) (earlier : List Exchange) :
    Reports (earlier ++ xs) res := by
  intro e failed
  obtain ⟨before, q, rfl⟩ := reports e failed
  exact ⟨earlier ++ before, q, (List.append_assoc ..).symm⟩

theorem Reports.map {res : Except Failure α} (reports : Reports xs res) (f : α → β) :
    Reports xs (res.map f) := by
  intro e failed
  cases res with
  | ok a => cases failed
  | error g =>
    cases failed
    exact reports e rfl

theorem observeRest_reports {r : Snapshot} {res : Except Failure Snapshot}
    (course : AttemptCourse remote limit (observeRest r) made s xs res t) : Reports xs res := by
  rcases course_observeRest course with ⟨stop, rfl, ended⟩ | ⟨_, rfl, _⟩ |
    ⟨_, _, _, _, _, _, _, rfl⟩
  · exact ended.reports
  · simp [Reports]
  · simp [Reports]

theorem observe_reports {base : Snapshot} {res : Except Failure Snapshot}
    (course : AttemptCourse remote limit (observe settings base) made s xs res t) :
    Reports xs res := by
  rcases course_observe course with ⟨stop, rfl, ended⟩ | ⟨_, _, rfl, _⟩ |
    ⟨candidates, r, _, _, ys, rfl, _, rest⟩
  · exact ended.reports
  · simp [Reports]
  · exact (observeRest_reports rest).after [⟨base.description, .ok candidates⟩]

theorem converge_reports {desired latest : Snapshot} {changes : ChangeSet}
    {res : Except Failure Snapshot}
    (course : AttemptCourse remote limit (converge settings desired latest changes) made s xs res t) :
    Reports xs res := by
  obtain ⟨stop, run, rfl⟩ := course_converge_planned course
  cases stop with
  | none =>
    simp only [Option.elim, ChangeSet.conclusion]
    split <;> simp [Reports]
  | some stop => exact run.reports

theorem remove_reports {r : Snapshot} {force : Bool} {res : Except Failure Unit}
    (course : AttemptCourse remote limit (remove r force) made s xs res t) : Reports xs res := by
  rcases attempt_answer (attempt_note course) with ⟨_, rfl, rfl, _⟩ | ⟨_, answer, u, ys, _, rest, rfl⟩
  · simp [Reports]
  · cases answer with
    | ok b =>
      obtain ⟨_, rfl, _⟩ := attempt_pure rest
      simp [Reports]
    | error e =>
      dsimp only at rest
      split at rest
      · cases rest with
        | note rest =>
          cases rest
          simp [Reports]
      · obtain ⟨rfl, rfl, _⟩ := attempt_throw rest
        intro f failed
        cases failed
        exact ⟨[], .delete r.target force, rfl⟩

theorem step_reports (remote : Remote σ) (settings : Settings) (limit : Option Nat)
    (step : Session.Step) (s : σ) :
    Reports ((step.attempt settings).exchanges remote limit s)
      ((step.attempt settings).run remote limit s).result := by
  cases step with
  | reconcile desired latest =>
    simp only [Session.Step.attempt, Attempt.run_map, Attempt.exchanges_map]
    have course := course_of_attempt remote limit (reconcile settings desired latest) s
    have protocol := reconciling_protocol (reconciling_of_course course)
    exact Reports.map protocol.reports _
  | observe base =>
    simp only [Session.Step.attempt, Attempt.run_map, Attempt.exchanges_map]
    exact (observe_reports (course_of_attempt remote limit (observe settings base) s)).map _
  | converge desired latest changes =>
    simp only [Session.Step.attempt, Attempt.run_map, Attempt.exchanges_map]
    exact (converge_reports (course_of_attempt remote limit (converge settings desired latest _) s)).map _
  | remove r force =>
    have course := course_of_attempt remote limit (Session.Step.attempt settings (.remove r force)) s
    rcases attempt_bind course with ⟨f, first, failed⟩ | ⟨_, _, _, _, _, rest, _⟩
    · rw [failed]
      exact (remove_reports first).map fun _ => Session.Result.removed
    · obtain ⟨_, fine, _⟩ := attempt_pure rest
      rw [fine]
      simp [Reports]

end

/-- Reading back passes on what it is refused with, for good if the code is listed. Only a repository
    that is not found is a failure of its own, which is never for good, whatever codes are listed. -/
theorem observe_refused (settings : Settings) (base : Snapshot) (body : Json)
    (replies : List Ecr.Reply) :
    ∃ f, ((observe settings base).run Ecr.remote none (.fault body :: replies)).result = .error f ∧
      (f = .notFound base.name ↔ Ecr.codeSaid body = "RepositoryNotFoundException") ∧
      (f.isTerminal settings = true ↔ Ecr.codeSaid body ∈ settings.terminalCodes ∧
        Ecr.codeSaid body ≠ "RepositoryNotFoundException") := by
  have classified := Ecr.refused_classified base.description body
  have unfound := (RemoteError.isNoRepository_iff _).trans classified.noRepository
  have course := course_of_attempt Ecr.remote none (observe settings base) (.fault body :: replies)
  rcases attempt_answer course with ⟨cut, _⟩ | ⟨_, answer, _, _, answered, rest, _⟩
  · exact absurd rfl (limit_of_cancelled cut)
  · have refusal : answer = .error (Ecr.refused base.description body) :=
      (congrArg Prod.fst answered).symm
    generalize Ecr.refused base.description body = e at refusal classified unfound
    subst refusal
    dsimp only at rest
    split at rest <;> rename_i missing
    · obtain ⟨_, result, _⟩ := attempt_throw rest
      have said := (unfound.mp missing).2
      refine ⟨_, result, iff_of_true rfl said, iff_of_false Bool.false_ne_true ?_⟩
      exact fun listed => listed.2 said
    · obtain ⟨_, result, _⟩ := attempt_throw rest
      have other : Ecr.codeSaid body ≠ "RepositoryNotFoundException" :=
        fun said => missing (unfound.mpr ⟨.inl rfl, said⟩)
      refine ⟨_, result, iff_of_false Failure.noConfusion other, ?_⟩
      rw [Failure.isTerminal_iff, and_iff_left other, ← classified.kept]
      simp [Failure.Listed]

/-- A service that refuses a request gives a code, which is kept; three codes mean that something is
    missing, each for the two operations that look for it, and all others are passed on. A reply that
    neither grants nor refuses is an error in transport. Any step that ends in an error of the remote
    ends in the meaning of the last reply, and whether that is for good depends on its code alone. -/
theorem refusals_keep_their_code (settings : Settings) :
    (∀ (q : Request) (code message : String),
      (Ecr.serviceError q code message).Classified q.operation code) ∧
    (∀ (q : Request) (body : Json),
      (Ecr.refused q body).Classified q.operation (Ecr.codeSaid body)) ∧
    (∀ (q : Request) (reply : Ecr.Reply) (e : RemoteError), Ecr.interpret q reply = .error e →
      ((∃ text, e = .transport text) ↔ ∀ body, reply ≠ .fault body) ∧
        ((Failure.remote e).isTerminal settings = true ↔
          ∃ code ∈ settings.terminalCodes, reply.code? = some code)) ∧
    ∀ (step : Session.Step) (limit : Option Nat) (replies : List Ecr.Reply) (e : RemoteError),
      let t := (step.attempt settings).run Ecr.remote limit replies
      t.result = .error (.remote e) → ∃ q reply, t.calls.getLast? = some q ∧
        reply = Ecr.replyAt replies (t.calls.length - 1) ∧ Ecr.interpret q reply = .error e := by
  refine ⟨Ecr.serviceError_classified, Ecr.refused_classified, fun q reply e refusal => ?_,
    fun step limit replies e => ?_⟩
  · refine ⟨Ecr.interpret_transport refusal, ?_⟩
    rw [Failure.isTerminal_iff, Ecr.interpret_code refusal]
    simp [Failure.Listed]
  · intro t failed
    have course := course_of_attempt Ecr.remote limit (step.attempt settings) replies
    have calls := (step.attempt settings).exchanges_requests Ecr.remote limit replies
    obtain ⟨before, q, made⟩ := step_reports Ecr.remote settings limit step replies e failed
    have replays := course_replays course
    rw [made] at replays calls
    have answered : (.error e : Except RemoteError q.Reply) =
        Ecr.interpret q (Ecr.replyAt replies before.length) :=
      Ecr.answer_interprets replays (x := ⟨q, .error e⟩) (by simp)
    have calls : t.calls = before.map Exchange.request ++ [q] := by
      rw [← calls]
      simp
    refine ⟨q, _, ?_, rfl, ?_⟩
    · simp [calls]
    · rw [calls, answered]
      simp

theorem refused_code_stops_any_operation :
    let settings : Settings :=
      { Settings.of "123456789012" "us-west-2" with terminalCodes := ["LimitExceededException"] }
    let refusal : List Ecr.Reply :=
      [.fault (.object [("__type", .string "com.amazonaws.ecr#LimitExceededException:hint")])]
    let removal := (Session.Step.remove (.named "app") false).attempt settings
    let creation := (Session.Step.reconcile (.named "app") none).attempt settings
    ∃ e f, (removal.run Ecr.remote none refusal).result = .error (.remote e) ∧
      (creation.run Ecr.remote none refusal).result = .error (.remote f) ∧
      (Failure.remote e).isTerminal settings = true ∧
      (Failure.remote f).isTerminal settings = true := by
  intro settings refusal removal creation
  obtain ⟨_, _, meaning, last⟩ := refusals_keep_their_code settings
  have removed : (removal.run Ecr.remote none refusal).result =
      .error (.remote (.service "LimitExceededException" "")) := by rfl
  have created : (creation.run Ecr.remote none refusal).result =
      .error (.remote (.service "LimitExceededException" "")) := by rfl
  refine ⟨_, _, removed, created, ?_, ?_⟩
  · obtain ⟨q, _, _, rfl, refused⟩ := last _ none refusal _ removed
    exact (meaning q _ _ refused).2.mpr ⟨_, List.mem_singleton_self _, rfl⟩
  · obtain ⟨q, _, _, rfl, refused⟩ := last _ none refusal _ created
    exact (meaning q _ _ refused).2.mpr ⟨_, List.mem_singleton_self _, rfl⟩

end Registrar
