import Mathlib.Data.List.Chain
import Registrar.Proofs.Adoption
import Registrar.Proofs.Stages

/- The call protocol of a pass: which operations it may make and in which order, whatever the remote
   answers. It is given by rows of slots, each filled by one operation or left empty where it may
   be, so that a run stopped early is a prefix of what a row spells. -/
namespace Registrar

def Exchange.operation (x : Exchange) : Operation := x.request.operation

structure Slot where
  choices : List Operation
  optional : Bool
  deriving DecidableEq, Repr

namespace Slot

def one (op : Operation) : Slot := ⟨[op], false⟩

def perhaps (ops : List Operation) : Slot := ⟨ops, true⟩

end Slot

inductive Spells : List Slot → List Operation → Prop where
  | nil : Spells [] []
  | filled {p : Slot} {row : List Slot} {op : Operation} {word : List Operation}
      (chosen : op ∈ p.choices) (rest : Spells row word) : Spells (p :: row) (op :: word)
  | empty {p : Slot} {row : List Slot} {word : List Operation} (optional : p.optional = true)
      (rest : Spells row word) : Spells (p :: row) word

def creationRow : List Slot :=
  [.one .create, .perhaps [.putLifecycle], .perhaps [.setPolicy]]

def recreationRow : List Slot := .one .describe :: creationRow

def updateRow : List Slot :=
  [.one .describe, .one .getPolicy, .one .getLifecycle, .one .listTags, .perhaps [.putScanning],
    .perhaps [.putMutability], .perhaps [.putLifecycle, .deleteLifecycle],
    .perhaps [.setPolicy, .deletePolicy], .perhaps [.untag], .perhaps [.tag]]

/-- A pass may do nothing. If it knows of no repository it creates one, else it starts by describing
    it. -/
def protocolRows : Option Snapshot → List (List Slot)
  | none => [[], creationRow]
  | some _ => [[], recreationRow, updateRow]

/-- What may come after an exchange: anything after one that passed, and a creation after a
    description that failed for want of the repository. -/
inductive Continues : Exchange → Exchange → Prop where
  | passed {x y : Exchange} (through : x.passed = true) : Continues x y
  | recreation {registryId : Option String} {names : List String} {e : RemoteError} {c : Creation}
      {answer : Except RemoteError Candidate} (missing : e.isNoRepository = true) :
      Continues ⟨.describe registryId names, .error e⟩ ⟨.create c, answer⟩

def describesNone (name : String) : Except RemoteError (List Candidate) → Prop
  | .error e => e.isNoRepository = true
  | .ok candidates => ∀ c ∈ candidates, c.name ≠ some name

structure CallProtocol (desired : Snapshot) (latest : Option Snapshot) (xs : List Exchange)
    (res : Except Failure Outcome) : Prop where
  spelled : ∃ row ∈ protocolRows latest, ∃ word, Spells row word ∧
    xs.map Exchange.operation <+: word
  recreates : ∀ before registryId names described c answer after,
    xs = before ++ ⟨.describe registryId names, described⟩ :: ⟨.create c, answer⟩ :: after →
      describesNone desired.name described
  keeps : ∀ x ∈ xs, x.operation ≠ .delete
  stops : xs.IsChain Continues
  reports : ∀ e, res = .error (.remote e) → ∃ before q, xs = before ++ [⟨q, .error e⟩]
  located : res = .error (.missingField "status.arn") →
    xs.map Exchange.operation = [.describe, .getPolicy, .getLifecycle]

namespace Spells

theorem append {row row' : List Slot} {word word' : List Operation} (first : Spells row word)
    (second : Spells row' word') : Spells (row ++ row') (word ++ word') := by
  induction first with
  | nil => exact second
  | filled chosen rest ih => exact .filled chosen ih
  | empty optional rest ih => exact .empty optional ih

theorem of_optional {row : List Slot} (optional : ∀ p ∈ row, p.optional = true) :
    Spells row [] := by
  induction row with
  | nil => exact .nil
  | cons p row ih =>
    exact .empty (optional p (by simp)) (ih fun p hp => optional p (by simp [hp]))

theorem choice {row : List Slot} {word : List Operation} (spelled : Spells row word)
    {op : Operation} (member : op ∈ word) : op ∈ row.flatMap Slot.choices := by
  induction spelled with
  | nil => cases member
  | filled chosen rest ih =>
    rcases List.mem_cons.mp member with rfl | member
    · simp [chosen]
    · simp [ih member]
  | empty optional rest ih => simp [ih member]

theorem flatMap_filter {slots : Field → List Slot} {words : Field → List Operation}
    (optional : ∀ f, ∀ p ∈ slots f, p.optional = true) (spelled : ∀ f, Spells (slots f) (words f))
    (chosen : Field → Bool) (fs : List Field) :
    Spells (fs.flatMap slots) ((fs.filter chosen).flatMap words) := by
  induction fs with
  | nil => exact .nil
  | cons f fs ih =>
    rw [List.flatMap_cons, List.filter_cons]
    split
    · exact (spelled f).append ih
    · exact (of_optional (optional f)).append ih

end Spells

def Field.slots : Field → List Slot
  | .scanning => [.perhaps [.putScanning]]
  | .mutability => [.perhaps [.putMutability]]
  | .lifecyclePolicy => [.perhaps [.putLifecycle, .deleteLifecycle]]
  | .policy => [.perhaps [.setPolicy, .deletePolicy]]
  | .tags => [.perhaps [.untag], .perhaps [.tag]]
  | .encryption => []

theorem Field.slots_optional (f : Field) : ∀ p ∈ f.slots, p.optional = true := by
  cases f <;> decide

theorem Field.requests_spell (settings : Settings) (desired : Snapshot) (arn : String)
    (old : List Tag) (f : Field) :
    Spells f.slots ((f.requests settings desired arn old).map Request.operation) := by
  cases f with
  | scanning => exact .filled (.head _) .nil
  | mutability => exact .filled (.head _) .nil
  | encryption => exact .nil
  | lifecyclePolicy =>
    rw [Field.requests]
    split
    · exact .filled (.head _) .nil
    · exact .filled (.tail _ (.head _)) .nil
  | policy =>
    rw [Field.requests]
    split
    · exact .filled (.head _) .nil
    · exact .filled (.tail _ (.head _)) .nil
  | tags =>
    rw [Field.requests, List.map_append]
    refine @Spells.append [_] [_] _ _ ?_ ?_
    · split
      · exact .filled (.head _) .nil
      · exact .empty rfl .nil
    · split
      · exact .filled (.head _) .nil
      · exact .empty rfl .nil

theorem plan_spells (settings : Settings) (desired latest : Snapshot) (changes : ChangeSet) :
    Spells (Field.pushed.flatMap Field.slots)
      ((changes.plan settings desired latest).map Request.operation) := by
  rw [ChangeSet.plan, List.map_flatMap]
  exact .flatMap_filter Field.slots_optional (Field.requests_spell settings desired _ _) _ _

theorem followUps_spell (r : Snapshot) (c : Creation) :
    Spells creationRow ((.create c :: r.followUps).map Request.operation) := by
  refine .filled (.head _) ?_
  rw [Snapshot.followUps, List.map_append]
  refine @Spells.append [_] [_] _ _ ?_ ?_
  · cases nonEmptyText r.spec.lifecyclePolicy
    · exact .empty rfl .nil
    · exact .filled (.head _) .nil
  · cases nonEmptyText r.spec.policy
    · exact .empty rfl .nil
    · exact .filled (.head _) .nil

theorem FailFast.chain {limit : Option Nat} {qs : List Request} {xs : List Exchange}
    {stop : Option Failure} (run : FailFast limit qs xs stop) : xs.IsChain Continues := by
  induction run with
  | finished => exact .nil
  | cancelled q rest cut => exact .nil
  | refused rest hard => exact .singleton _
  | passed through tail ih => exact ih.cons fun _ _ => .passed through

def Delivered (limit : Option Nat) (row : List Slot) (xs : List Exchange)
    (res : Except Failure Outcome) : Prop :=
  ∃ qs stop word, FailFast limit qs xs stop ∧ Spells row word ∧
    qs.map Request.operation <+: word ∧ ∀ e, res = .error (.remote e) → stop = some (.remote e)

namespace Delivered
variable {limit : Option Nat} {row : List Slot} {xs : List Exchange} {res : Except Failure Outcome}

theorem spelled (delivered : Delivered limit row xs res) :
    ∃ word, Spells row word ∧ xs.map Exchange.operation <+: word := by
  obtain ⟨qs, stop, word, run, spelled, begins, _⟩ := delivered
  refine ⟨word, spelled, List.IsPrefix.trans ?_ begins⟩
  have made := run.requests_prefix.map Request.operation
  rwa [List.map_map] at made

theorem operation_choice (delivered : Delivered limit row xs res) {x : Exchange} (member : x ∈ xs) :
    x.operation ∈ row.flatMap Slot.choices := by
  obtain ⟨word, spelled, begins⟩ := delivered.spelled
  exact spelled.choice (begins.subset (List.mem_map_of_mem member))

theorem stops (delivered : Delivered limit row xs res) : xs.IsChain Continues := by
  obtain ⟨_, _, _, run, _⟩ := delivered
  exact run.chain

theorem reports (delivered : Delivered limit row xs res) {e : RemoteError}
    (failed : res = .error (.remote e)) : ∃ before q, xs = before ++ [⟨q, .error e⟩] := by
  obtain ⟨_, _, _, run, _, _, reported⟩ := delivered
  exact run.last_refused (reported e failed)

theorem protocol {desired : Snapshot} {latest : Option Snapshot}
    (delivered : Delivered limit row xs res) (allowed : row ∈ protocolRows latest)
    (apart : .describe ∉ row.flatMap Slot.choices ∨ .create ∉ row.flatMap Slot.choices)
    (keeping : .delete ∉ row.flatMap Slot.choices)
    (located : res = .error (.missingField "status.arn") →
      xs.map Exchange.operation = [.describe, .getPolicy, .getLifecycle]) :
    CallProtocol desired latest xs res where
  spelled := ⟨row, allowed, delivered.spelled⟩
  recreates before registryId names described c answer after h := by
    have described : Operation.describe ∈ row.flatMap Slot.choices :=
      delivered.operation_choice (x := ⟨.describe registryId names, described⟩) (by simp [h])
    have created : Operation.create ∈ row.flatMap Slot.choices :=
      delivered.operation_choice (x := ⟨.create c, answer⟩) (by simp [h])
    exact (apart.elim (· described) (· created)).elim
  keeps x member deletes := keeping (deletes ▸ delivered.operation_choice member)
  stops := delivered.stops
  reports _ failed := delivered.reports failed
  located := located

theorem nothing (fine : ∀ e, res ≠ .error (.remote e)) : Delivered limit [] [] res :=
  ⟨[], none, [], .finished, .nil, List.nil_prefix, fun e failed => absurd failed (fine e)⟩

end Delivered

theorem Creating.delivered {limit : Option Nat} {settings : Settings} {desired : Snapshot}
    {xs : List Exchange} {res : Except Failure Outcome}
    (creation : Creating limit settings desired xs res) : Delivered limit creationRow xs res := by
  cases creation with
  | @refused xs stop ended =>
    refine ⟨_, _, [.create], ended, .filled (.head _) (.of_optional (by decide)),
      List.prefix_refl _, fun e h => ?_⟩
    cases h
    rfl
  | @made c xs stop followed =>
    exact ⟨_, stop, _, .passed (x := ⟨.create desired.spec.creation, .ok c⟩) rfl followed,
      followUps_spell _ _, List.prefix_refl _, fun e h => nomatch h⟩

theorem Creating.located {limit : Option Nat} {settings : Settings} {desired : Snapshot}
    {xs : List Exchange} {res : Except Failure Outcome}
    (creation : Creating limit settings desired xs res) (field : String) :
    res ≠ .error (.missingField field) := by
  cases creation with
  | refused ended => rcases ended.stop_cases with ⟨_, rfl⟩ | ⟨_, rfl⟩ <;> simp
  | made followed => simp

theorem update_spells {word : List Operation}
    (spelled : Spells (Field.pushed.flatMap Field.slots) word) :
    Spells updateRow ([.describe, .getPolicy, .getLifecycle, .listTags] ++ word) := by
  have reading : Spells [.one .describe, .one .getPolicy, .one .getLifecycle, .one .listTags]
      [.describe, .getPolicy, .getLifecycle, .listTags] :=
    .filled (.head _) (.filled (.head _) (.filled (.head _) (.filled (.head _) .nil)))
  exact reading.append spelled

theorem Snapshot.readings_prefix (r : Snapshot) :
    r.readings.map Request.operation <+: [.getPolicy, .getLifecycle, .listTags] := by
  cases located : r.arn with
  | none => simp [Snapshot.readings, located]
  | some arn => simp [Snapshot.readings, located]

theorem Creating.begins {limit : Option Nat} {settings : Settings} {desired : Snapshot}
    {x : Exchange} {xs : List Exchange} {res : Except Failure Outcome}
    (creation : Creating limit settings desired (x :: xs) res) :
    ∃ answer, x = ⟨.create desired.spec.creation, answer⟩ := by
  cases creation with
  | refused ended =>
    obtain ⟨q, answer⟩ := x
    obtain rfl : q = .create desired.spec.creation :=
      (List.cons_prefix_cons.mp ended.requests_prefix).1
    exact ⟨answer, rfl⟩
  | made followed => exact ⟨_, rfl⟩

section
variable {limit : Option Nat} {settings : Settings} {desired : Snapshot} {xs : List Exchange}
  {res : Except Failure Outcome}

theorem delivered_reading {base r : Snapshot} {candidates : List Candidate} {stop : Option Failure}
    (read : FailFast limit r.readings xs stop)
    (reported : ∀ e, res = .error (.remote e) → stop = some (.remote e)) :
    Delivered limit updateRow (⟨base.description, .ok candidates⟩ :: xs) res := by
  have run := FailFast.passed (x := ⟨base.description, .ok candidates⟩) rfl read
  refine ⟨_, stop, _, run, update_spells (.of_optional (by decide)), ?_, reported⟩
  obtain ⟨rest, h⟩ := r.readings_prefix
  exact ⟨rest, congrArg (Operation.describe :: ·) h⟩

theorem delivered_update {base r observed : Snapshot} {candidates : List Candidate} {arn : String}
    {ys zs : List Exchange} {changes : ChangeSet} {stop : Option Failure} (located : r.arn = some arn)
    (read : FailFast limit r.readings ys none)
    (sent : FailFast limit (changes.plan settings desired observed) zs stop)
    (reported : ∀ e, res = .error (.remote e) → stop = some (.remote e)) :
    Delivered limit updateRow (⟨base.description, .ok candidates⟩ :: (ys ++ zs)) res := by
  have run := FailFast.passed (x := ⟨base.description, .ok candidates⟩) rfl (read.append sent)
  refine ⟨_, stop, _, run, update_spells (plan_spells settings desired observed changes), ?_,
    reported⟩
  simp [Snapshot.description, Snapshot.readings, located]

theorem protocol_recreated {latest : Snapshot} {answer : Except RemoteError (List Candidate)}
    (absent : Absent settings (desired.sought latest) answer)
    (creation : Creating limit settings desired xs res) :
    CallProtocol desired (some latest) (⟨(desired.sought latest).description, answer⟩ :: xs) res := by
  have delivered := creation.delivered
  have none : describesNone desired.name answer := by
    cases absent with
    | refused missing => exact missing
    | others unfound => exact @among_unfound (desired.sought latest) _ _ unfound
  have first : ∀ y ∈ xs.head?,
      Continues ⟨(desired.sought latest).description, answer⟩ y := by
    intro y head
    cases answer with
    | ok candidates => exact .passed rfl
    | error e =>
      obtain ⟨rest, rfl⟩ := List.head?_eq_some_iff.mp head
      obtain ⟨made, rfl⟩ := creation.begins
      exact .recreation none
  obtain ⟨word, spelled, begins⟩ := delivered.spelled
  refine ⟨⟨recreationRow, by simp [protocolRows], .describe :: word, .filled (.head _) spelled, ?_⟩,
    ?_, ?_, delivered.stops.cons first, ?_, fun h => absurd h (creation.located _)⟩
  · exact List.cons_prefix_cons.mpr ⟨rfl, begins⟩
  · intro before registryId names described c made after h
    cases before with
    | nil =>
      cases (List.cons.inj h).1
      exact none
    | cons x before =>
      -- Past the first exchange there are only those of the creation, which describes nothing.
      obtain ⟨_, rfl⟩ := List.cons.inj h
      have described : Operation.describe ∈ creationRow.flatMap Slot.choices :=
        delivered.operation_choice (x := ⟨.describe registryId names, described⟩) (by simp)
      exact absurd described (by decide)
  · intro x member
    rcases List.mem_cons.mp member with rfl | member
    · exact nofun
    · intro deletes
      exact absurd (deletes ▸ delivered.operation_choice member) (by decide)
  · intro e failed
    obtain ⟨before, q, rfl⟩ := delivered.reports failed
    exact ⟨_ :: before, q, rfl⟩

theorem reconciling_protocol {latest : Option Snapshot}
    (course : Reconciling limit settings desired latest xs res) :
    CallProtocol desired latest xs res := by
  cases course with
  | unnamed nameless =>
    have delivered : Delivered limit [] [] (.error (.missingField "spec.name")) := .nothing (by simp)
    refine delivered.protocol ?_ (.inl (by decide)) (by decide) (by simp)
    cases latest <;> simp [protocolRows]
  | created creation =>
    exact creation.delivered.protocol (by simp [protocolRows]) (.inl (by decide)) (by decide)
      fun h => absurd h (creation.located _)
  | @blocked latest failed =>
    have delivered : Delivered limit [] [] (.ok { snapshot := latest, state := .terminal }) :=
      .nothing (by simp)
    exact delivered.protocol (by simp [protocolRows]) (.inl (by decide)) (by decide) (by simp)
  | recreated absent creation => exact protocol_recreated absent creation
  | @undescribed latest xs stop ended =>
    have delivered : Delivered limit updateRow xs (.error stop) :=
      ⟨_, _, _, ended, update_spells (.of_optional (by decide)), ⟨_, rfl⟩, by simp⟩
    refine delivered.protocol (by simp [protocolRows]) (.inr (by decide)) (by decide) fun h => ?_
    rcases ended.stop_cases with ⟨_, rfl⟩ | ⟨_, rfl⟩ <;> cases h
  | @unread latest r candidates xs stop found ended =>
    have delivered : Delivered limit updateRow
        (⟨(desired.sought latest).description, .ok candidates⟩ :: xs) (.error stop) :=
      delivered_reading ended (by simp)
    refine delivered.protocol (by simp [protocolRows]) (.inr (by decide)) (by decide) fun h => ?_
    rcases ended.stop_cases with ⟨_, rfl⟩ | ⟨_, rfl⟩ <;> cases h
  | @placeless latest r candidates xs found placeless read =>
    refine (delivered_reading read (by simp)).protocol (by simp [protocolRows]) (.inr (by decide))
      (by decide) fun _ => ?_
    have made := congrArg (List.map Request.operation) read.requests_all
    rw [List.map_map, Snapshot.readings, placeless] at made
    exact congrArg (Operation.describe :: ·) made
  | current found located read same =>
    exact (delivered_reading read (by simp)).protocol (by simp [protocolRows]) (.inr (by decide))
      (by decide) (by simp)
  | @pushed latest r candidates arn policy lifecycle tags xs stop found located read differs sent =>
    refine (delivered_update located read sent ?_).protocol (by simp [protocolRows])
      (.inr (by decide)) (by decide) fun h => ?_
    · cases stop <;> simp [resultOf]
    · cases stop with
      | none => cases h
      | some stop => rcases sent.stop_cases with ⟨_, rfl⟩ | ⟨_, rfl⟩ <;> cases h

end

/-- Whatever the remote answers and whenever the pass is cancelled, it keeps to the protocol. -/
theorem reconcile_keeps_protocol (remote : Remote σ) (limit : Option Nat) (settings : Settings)
    (desired : Snapshot) (latest : Option Snapshot) (s : σ) :
    ∃ xs : List Exchange,
      xs.map Exchange.request = ((reconcile settings desired latest).run remote limit s).calls ∧
      Replays remote s xs ((reconcile settings desired latest).run remote limit s).state ∧
      CallProtocol desired latest xs
        ((reconcile settings desired latest).run remote limit s).result := by
  have course := course_of_attempt remote limit (reconcile settings desired latest) s
  exact ⟨_, Attempt.exchanges_requests remote limit _ s, course_replays course,
    reconciling_protocol (reconciling_of_course course)⟩

end Registrar
