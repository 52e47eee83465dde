import Registrar.Proofs.FollowUp

/- How often the requests of a pass name a tag key. A desired list of tags may repeat a key. Its first
   tag counts when tags are compared, and tags that are synchronised are named once each. A creation
   carries the list as it was given. -/
namespace Registrar

namespace Request

def tagsSet : Request → List Tag
  | .create c => c.tags
  | .tag _ tags => tags
  | _ => []

def tagKeys : Request → List String
  | .untag _ keys => keys
  | q => Tag.keys q.tagsSet

/-- Names no tag key twice, and sets each to what the first of the desired tags of that key says. -/
structure NamesTagsOnce (desired : List Tag) (q : Request) : Prop where
  once : q.tagKeys.Nodup
  first : ∀ t ∈ q.tagsSet, Tag.find? desired t.key = some t

theorem namesTagsOnce_of_silent {desired : List Tag} {q : Request} (none : q.tagKeys = [])
    (unset : q.tagsSet = []) : q.NamesTagsOnce desired where
  once := none ▸ List.nodup_nil
  first := by simp [unset]

theorem creation_namesTagsOnce_iff (s : Spec) :
    (Request.create s.creation).NamesTagsOnce s.tags ↔ (Tag.keys s.tags).Nodup := by
  constructor
  · exact NamesTagsOnce.once
  · intro distinct
    refine ⟨distinct, fun t member => Tag.mem_firsts.mp ?_⟩
    rwa [Tag.firsts_of_nodup distinct]

end Request

inductive AskedFor (settings : Settings) (desired : Snapshot) : Request → Prop where
  | description (base : Snapshot) : AskedFor settings desired base.description
  | reading {r : Snapshot} {q : Request} (loads : q ∈ r.readings) : AskedFor settings desired q
  | push {changes : ChangeSet} {observed : Snapshot} {q : Request}
      (planned : q ∈ changes.plan settings desired observed) : AskedFor settings desired q
  | creation : AskedFor settings desired (.create desired.spec.creation)
  | followUp {made : Snapshot} {q : Request} (follows : q ∈ made.followUps) :
      AskedFor settings desired q

section
variable {settings : Settings} {desired : Snapshot} {limit : Option Nat} {xs : List Exchange}

theorem FailFast.asked {qs : List Request} {stop : Option Failure}
    (run : FailFast limit qs xs stop) (known : ∀ q ∈ qs, AskedFor settings desired q) :
    ∀ x ∈ xs, AskedFor settings desired x.request := fun _ member =>
  known _ (run.asked_mem member)

theorem Creating.asked {res : Except Failure Outcome}
    (creation : Creating limit settings desired xs res) :
    ∀ x ∈ xs, AskedFor settings desired x.request := by
  cases creation with
  | refused ended => exact ended.asked (List.forall_mem_singleton.mpr .creation)
  | made followed =>
    exact List.forall_mem_cons.mpr ⟨.creation, followed.asked fun _ => .followUp⟩

theorem Reconciling.asked {latest : Option Snapshot} {res : Except Failure Outcome}
    (course : Reconciling limit settings desired latest xs res) :
    ∀ x ∈ xs, AskedFor settings desired x.request := by
  cases course with
  | unnamed nameless => simp
  | created creation => exact creation.asked
  | blocked failed => simp
  | undescribed ended => exact ended.asked (List.forall_mem_singleton.mpr (.description _))
  | recreated absent creation =>
    exact List.forall_mem_cons.mpr ⟨.description _, creation.asked⟩
  | unread found ended =>
    exact List.forall_mem_cons.mpr ⟨.description _, ended.asked fun _ => .reading⟩
  | placeless found placeless read =>
    exact List.forall_mem_cons.mpr ⟨.description _, read.asked fun _ => .reading⟩
  | current found located read same =>
    exact List.forall_mem_cons.mpr ⟨.description _, read.asked fun _ => .reading⟩
  | pushed found located read differs sent =>
    have reading : ∀ x : Exchange, x ∈ _ → AskedFor settings desired x.request :=
      read.asked fun _ => .reading
    have pushing := sent.asked fun _ => .push
    exact List.forall_mem_cons.mpr ⟨.description _, List.forall_mem_append.mpr ⟨reading, pushing⟩⟩

theorem tag_requests_name_once {arn : String} {old : List Tag} {q : Request}
    (asked : q ∈ Field.tags.requests settings desired arn old) :
    q.NamesTagsOnce desired.spec.tags := by
  rw [Field.requests] at asked
  rcases List.mem_append.mp asked with untagging | tagging
  · split at untagging
    · cases List.mem_singleton.mp untagging
      exact ⟨TagDelta.removed_nodup, fun t set => absurd set List.not_mem_nil⟩
    · cases untagging
  · split at tagging
    · cases List.mem_singleton.mp tagging
      exact ⟨TagDelta.keys_upserts_nodup, fun t set => (TagDelta.mem_upserts.mp set).1⟩
    · cases tagging

theorem pushes_name_once {arn : String} {old : List Tag} {f : Field} {q : Request}
    (asked : q ∈ f.requests settings desired arn old) : q.NamesTagsOnce desired.spec.tags := by
  have field := requests_field asked
  cases requests_push asked with
  | untag keys =>
    cases field
    exact tag_requests_name_once asked
  | tag tags =>
    cases field
    exact tag_requests_name_once asked
  | _ => exact Request.namesTagsOnce_of_silent rfl rfl

theorem AskedFor.created_or_names_once {q : Request} (asked : AskedFor settings desired q) :
    q = .create desired.spec.creation ∨
      q.operation ≠ .create ∧ q.NamesTagsOnce desired.spec.tags := by
  cases asked with
  | description base => exact .inr ⟨nofun, Request.namesTagsOnce_of_silent rfl rfl⟩
  | creation => exact .inl rfl
  | reading loads =>
    rcases Snapshot.mem_readings loads with rfl | rfl | ⟨arn, _, rfl⟩ <;>
      exact .inr ⟨nofun, Request.namesTagsOnce_of_silent rfl rfl⟩
  | push planned =>
    obtain ⟨f, _, mine⟩ := List.mem_flatMap.mp planned
    refine .inr ⟨?_, pushes_name_once mine⟩
    intro creates
    cases requests_push mine <;> cases creates
  | followUp follows =>
    rcases mem_followUps follows with ⟨text, rfl⟩ | ⟨text, rfl⟩
    · exact .inr ⟨nofun, Request.namesTagsOnce_of_silent rfl rfl⟩
    · exact .inr ⟨nofun, Request.namesTagsOnce_of_silent rfl rfl⟩

/-- Whatever the remote answers, a request other than a creation names tags once. All requests of a
    pass do exactly if the desired tags repeat no key or nothing is to be created. -/
theorem tags_named_once_iff (remote : Remote σ) (limit : Option Nat) (settings : Settings)
    (desired : Snapshot) (latest : Option Snapshot) (s : σ) :
    let calls := ((reconcile settings desired latest).run remote limit s).calls
    (∀ q ∈ calls, q.operation ≠ .create → q.NamesTagsOnce desired.spec.tags) ∧
      ((∀ q ∈ calls, q.NamesTagsOnce desired.spec.tags) ↔
        (Tag.keys desired.spec.tags).Nodup ∨ ∀ q ∈ calls, q.operation ≠ .create) := by
  intro calls
  have course := course_of_attempt remote limit (reconcile settings desired latest) s
  have requests : _ = calls :=
    Attempt.exchanges_requests remote limit (reconcile settings desired latest) s
  have named : ∀ q ∈ calls, q = .create desired.spec.creation ∨
      q.operation ≠ .create ∧ q.NamesTagsOnce desired.spec.tags := by
    intro q made
    rw [← requests] at made
    obtain ⟨x, member, rfl⟩ := List.mem_map.mp made
    exact ((reconciling_of_course course).asked x member).created_or_names_once
  refine ⟨?_, ?_, ?_⟩
  · intro q made kept
    rcases named q made with rfl | ⟨_, once⟩
    · exact absurd rfl kept
    · exact once
  · intro once
    by_cases created : Request.create desired.spec.creation ∈ calls
    · exact .inl ((Request.creation_namesTagsOnce_iff _).mp (once _ created))
    · refine .inr fun q made => ?_
      rcases named q made with rfl | ⟨kept, _⟩
      · exact absurd made created
      · exact kept
  · rintro (distinct | uncreated) q made
    · rcases named q made with rfl | ⟨_, once⟩
      · exact (Request.creation_namesTagsOnce_iff _).mpr distinct
      · exact once
    · rcases named q made with rfl | ⟨_, once⟩
      · exact absurd rfl (uncreated _ made)
      · exact once

end

theorem repeated_key_is_created :
    let desired : Snapshot :=
      { spec := { name := "app", tags := [⟨"env", some "a"⟩, ⟨"env", some "b"⟩] } }
    let t := (reconcile (.of "123456789012" "us-west-2") desired none).run Registry.remote none {}
    (∃ outcome, t.result = .ok outcome ∧ outcome.state = .created) ∧
      ∃ q ∈ t.calls, q.tagKeys = ["env", "env"] ∧ ¬ q.NamesTagsOnce desired.spec.tags := by
  refine ⟨⟨_, rfl, rfl⟩, _, List.mem_singleton_self _, rfl, ?_⟩
  intro once
  exact absurd once.once (by decide)

end Registrar
