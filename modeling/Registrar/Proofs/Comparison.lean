import Registrar.Proofs.Due
import Registrar.Proofs.Stages

/- What a pass finds to differ. Where a snapshot shows what the registry has stored, the fields that
   differ from what is desired are those that the stored repository disagrees at, and the requests
   planned for them are the ones that are due. -/
namespace Registrar

namespace ChangeSet

theorem differsAt_putChange (c : Change) (changes : List Change) (f : Field) :
    (putChange c changes).any (·.field = f) = (changes.any (·.field = f) || c.field = f) := by
  induction changes with
  | nil => simp [putChange]
  | cons d rest ih =>
    rw [putChange]
    by_cases same : d.field = c.field
    · rw [if_pos same, List.any_cons, List.any_cons, same, Bool.or_right_comm, Bool.or_self]
    · simp [if_neg same, ih, Bool.or_assoc]

theorem differsAt_addValues (s : ChangeSet) (f g : Field) (values : Difference.Values) :
    (s.addValues f values).differsAt g = (s.differsAt g || decide (f = g) && values.isSome) := by
  cases values with
  | none => simp [addValues]
  | some v => simp [addValues, add, differsAt, differsAt_putChange]

end ChangeSet

def Difference.at (settings : Settings) (desired latest : Spec) : Field → Difference.Values
  | .tags => Difference.tags desired latest
  | f => Difference.valueAt settings desired latest f

theorem differsAt_between (settings : Settings) (desired latest : Snapshot) (f : Field) :
    (ChangeSet.between settings desired latest).differsAt f =
      (Difference.at settings desired.spec latest.spec f).isSome := by
  simp only [ChangeSet.between, ChangeSet.betweenWith, Difference.byValue, List.foldl_cons,
    List.foldl_nil, ChangeSet.differsAt_addValues, ChangeSet.findTags]
  cases f <;> simp [ChangeSet.empty, ChangeSet.differsAt, Difference.at]

structure Snapshot.Shows (r : Snapshot) (s : Stored) : Prop where
  scanning : r.spec.scanning = some ⟨some s.scanOnPush⟩
  mutability : r.spec.mutability = some s.mutability
  encryption : r.spec.encryption = some s.encryption
  lifecyclePolicy : r.spec.lifecyclePolicy = s.lifecyclePolicy
  policy : r.spec.policy = s.policy
  tags : r.spec.tags = s.tags
  arn : r.arn = some (Registry.arnOf s.name)

section
variable {settings : Settings} {desired observed : Snapshot} {s : Stored}

theorem differsAt_shown (shows : observed.Shows s) (f : Field) :
    (ChangeSet.between settings desired observed).differsAt f = !s.agreesAt settings desired f := by
  rw [differsAt_between]
  cases f with
  | scanning =>
    have old : observed.spec.scansOnPush settings = s.scanOnPush := by
      simp [Spec.scansOnPush, shows.scanning]
    simp only [Difference.at, Difference.valueAt, Difference.scanning, old, Stored.agreesAt]
    split <;> simp_all
  | mutability =>
    have old : observed.spec.effectiveMutability settings = s.mutability := by
      simp [Spec.effectiveMutability, shows.mutability]
    simp only [Difference.at, Difference.valueAt, Difference.mutability, old, Stored.agreesAt]
    split <;> simp_all
  | encryption =>
    simp [Difference.at, Difference.valueAt, Stored.agreesAt, Difference.encryption,
      Spec.encryptionKind, Spec.encryptionKey, shows.encryption]
    split <;> rename_i same <;> simp [same]
  | lifecyclePolicy =>
    simp only [Difference.at, Difference.valueAt, Difference.policy, shows.lifecyclePolicy,
      Stored.agreesAt]
    split <;> simp_all
  | policy =>
    simp only [Difference.at, Difference.valueAt, Difference.policy, shows.policy, Stored.agreesAt]
    split <;> simp_all
  | tags =>
    simp only [Difference.at, Difference.tags, shows.tags, Stored.agreesAt]
    split <;> simp_all

theorem flatMap_filtered (chosen : Field → Bool) (f : Field → List Request) (fs : List Field) :
    (fs.filter chosen).flatMap f = fs.flatMap fun g => if chosen g then f g else [] := by
  induction fs with
  | nil => rfl
  | cons g fs ih =>
    rw [List.flatMap_cons, List.filter_cons]
    cases chosen g with
    | true => simp [ih]
    | false => simp [ih]

theorem plan_shown (shows : observed.Shows s) :
    (ChangeSet.between settings desired observed).plan settings desired observed =
      s.due settings desired := by
  rw [ChangeSet.plan, Stored.due, flatMap_filtered, shows.arn, shows.tags]
  refine List.flatMap_congr fun f _ => ?_
  rw [differsAt_shown shows, Stored.dueAt]
  cases s.agreesAt settings desired f <;> rfl

theorem needsRequests_shown (shows : observed.Shows s) :
    (ChangeSet.between settings desired observed).needsRequests = false ↔
      s.due settings desired = [] := by
  rw [due_eq_nil_iff, ChangeSet.needsRequests, List.any_eq_false]
  refine forall₂_congr fun f _ => ?_
  rw [differsAt_shown shows]
  cases s.agreesAt settings desired f <;> simp

end

end Registrar
