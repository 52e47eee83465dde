import Registrar.Proofs.FileMoves
import Registrar.Proofs.SnapshotText
import Registrar.Settings.File

/- Settings survive being saved and loaded. The text of a file is read back by way of a value whose
   members are in order, is of the current version already and so is not changed on the way; what a
   file of any version is loaded as is of the current version too. -/
namespace Registrar

open Json (Document Plain plain_record plain_array plain_natural)
open Reading (Record Placed Restores restores_record restores_string restores_boolean
  restores_natural restores_sequence)

namespace Settings

theorem restores_word32 (n : UInt32) : Restores word32 (.natural n.toNat) n := by
  intro w same
  rw [word32, restores_natural n.toNat_lt_size "u32" w same, Except.map, UInt32.ofNat_toNat]

theorem restores_word64 (n : UInt64) : Restores word64 (.natural n.toNat) n := by
  intro w same
  rw [word64, restores_natural n.toNat_lt_size "u64" w same, Except.map, UInt64.ofNat_toNat]

def members (s : Settings) : List (String × Option Json) :=
  [("config_version", some (.natural s.version.toNat)),
    ("account_id", some (.string s.account)),
    ("region", some (.string s.region)),
    ("default_scan_on_push", some (.bool s.presetScan)),
    ("default_image_tag_mutability", some s.presetMutability.json),
    ("terminal_error_codes", some (.strings s.terminalCodes)),
    ("create_followup_requeue_secs", some (.natural s.requeueSeconds.toNat))]

theorem json_eq_record (s : Settings) : s.json = .record s.members := rfl

theorem restores (s : Settings) : Restores ofDocument s.json s := by
  refine restores_record (show s.members.map Prod.fst = fields from rfl) (by decide) fun r shown => ?_
  have version : r.defaulted "config_version" 0 word32 = .ok s.version :=
    shown.defaulted (by simp [members]) (restores_word32 s.version) 0
  have account : r.required "account_id" Reading.string = .ok s.account :=
    shown.required (by simp [members]) (restores_string s.account)
  have region : r.required "region" Reading.string = .ok s.region :=
    shown.required (by simp [members]) (restores_string s.region)
  have scan : r.defaulted "default_scan_on_push" false Reading.boolean = .ok s.presetScan :=
    shown.defaulted (by simp [members]) (restores_boolean s.presetScan) false
  have mutability : r.defaulted "default_image_tag_mutability" Mutability.preset
      (Mutability.ofDocument .value) = .ok s.presetMutability :=
    shown.defaulted (by simp [members]) (s.presetMutability.restores .value) _
  have codes : r.defaulted "terminal_error_codes" [] (Reading.sequence Reading.string) =
      .ok s.terminalCodes :=
    shown.defaulted (by simp [members, Json.strings])
      (restores_sequence fun code _ => restores_string code) []
  have requeue : r.defaulted "create_followup_requeue_secs" presetRequeueSeconds word64 =
      .ok s.requeueSeconds :=
    shown.defaulted (by simp [members]) (restores_word64 s.requeueSeconds) _
  rw [version, account, region, scan, mutability, codes, requeue]
  rfl

theorem plain (s : Settings) : Plain (depth + 2) s.json := by
  rw [json_eq_record]
  refine plain_record (show fields.Nodup by decide) ?_
  have version : Plain (depth + 1) (.natural s.version.toNat) :=
    plain_natural (Nat.lt_trans s.version.toNat_lt_size (by decide))
  have requeue : Plain (depth + 1) (.natural s.requeueSeconds.toNat) :=
    plain_natural s.requeueSeconds.toNat_lt_size
  have codes : Plain (depth + 1) (.strings s.terminalCodes) := plain_array fun _ _ => trivial
  simp [members, Plain, Mutability.json, version, requeue, codes]

theorem migrated_current {v : Json}
    (declares : v.member? "config_version" = some (.natural currentVersion.toNat)) :
    migrated v = .ok v := by
  have declared : declaredVersion v = 1 := by
    rw [declaredVersion, declares]
    rfl
  simp only [migrated, declared]
  rfl

theorem member?_migrated {v u : Json} (done : migrated v = .ok u) :
    u.member? "config_version" = some (.natural currentVersion.toNat) := by
  simp only [migrated] at done
  split at done
  · cases done
  · split at done
    · cases done
    · split at done
      · cases v with
        | object members =>
          cases done
          exact Json.lookup_putMember _ _ _
        | _ => cases done
      · cases done
        rename_i new old
        have declared : declaredVersion v = 1 := by
          have : currentVersion.toNat = 1 := rfl
          omega
        rw [declaredVersion] at declared
        split at declared
        · rename_i z found
          have one : z = 1 := by
            split at declared <;> omega
          rw [found, one]
          rfl
        · cases declared

theorem version_of_ofJson {v : Json} {s : Settings}
    (declares : v.member? "config_version" = some (.natural currentVersion.toNat))
    (read : ofJson v = .ok s) : s.version = currentVersion := by
  cases v with
  | object members =>
    rw [ofJson, ofDocument] at read
    have built := Record.built read
    have version := Record.memberFrom_lookup "config_version" members 0
    rw [show members.lookup "config_version" = _ from declares, Option.map_some,
      Option.map_eq_some_iff] at version
    obtain ⟨⟨i, _⟩, version, rfl⟩ := version
    -- The version is set by the first field that is built in; what the others add leaves it.
    refine Placed.seq_all (P := fun c => c.version = currentVersion) (Placed.seq_all (Placed.seq_all
      (Placed.seq_all (Placed.seq_all (Placed.seq_all ?_))))) s built
    intro g first
    have one := restores_word32 currentVersion _ (.refl _)
    simp only [Record.defaulted, Record.member?, version, one, Placed.ofExcept] at first
    cases first
    intros
    rfl
  | _ => cases declares

theorem load_of_parts {text : List Char} {v u : Json} {s : Settings}
    (parsed : Json.parse? text = some v) (moved : migrated v = .ok u) (read : ofJson u = .ok s) :
    load text = s.validate.map fun _ => s := by
  simp only [load, parsed, moved, read, bind, Except.bind]
  cases s.validate <;> rfl

theorem of_load {text : List Char} {s : Settings} (loads : load text = .ok s) :
    s.version = currentVersion ∧ s.validate = .ok () := by
  cases parsed : Json.parse? text with
  | none =>
    simp only [load, parsed] at loads
    cases loads
  | some v =>
    cases moved : migrated v with
    | error e =>
      simp only [load, parsed, moved, bind, Except.bind] at loads
      cases loads
    | ok u =>
      cases read : ofJson u with
      | error f =>
        simp only [load, parsed, moved, read, bind, Except.bind] at loads
        cases loads
      | ok c =>
        rw [load_of_parts parsed moved read] at loads
        cases valid : c.validate with
        | error e =>
          rw [valid] at loads
          cases loads
        | ok _ =>
          rw [valid] at loads
          cases loads
          exact ⟨version_of_ofJson (member?_migrated moved) read, valid⟩

theorem load_fileText (s : Settings) :
    load s.fileText = s.validate.map fun _ => { s with version := currentVersion } := by
  obtain ⟨stamped, hs⟩ : ∃ stamped, stamped = { s with version := currentVersion } := ⟨_, rfl⟩
  have plain : Plain Document.greatestDepth stamped.json := stamped.plain
  have same := Json.reordered_ordered stamped.json plain
  have parsed := Json.parse?_unspaced plain (Json.renders_renderLines 0 stamped.json plain)
  have declares : stamped.json.ordered.member? "config_version" =
      some (.natural currentVersion.toNat) := by
    have distinct : (stamped.members.map Prod.fst).Nodup := show fields.Nodup by decide
    obtain ⟨u, reordered, found⟩ := Json.member?_reordered distinct same List.mem_cons_self
    cases reordered
    rw [found, hs]
    rfl
  have read : ofJson stamped.json.ordered = .ok stamped := stamped.restores _ same
  have loads := load_of_parts parsed (migrated_current declares) read
  rw [hs] at loads
  exact loads

/-- The directories of the path are there or can be made, and after that neither the file nor the
    spare file beside it is a directory or has a name that the system does not take. -/
structure Writable (t : FileTree) (path : FilePath) : Prop where
  parent : (t.makeDirectories path.parent).2 = true
  spare : ((t.makeDirectories path.parent).1.filePlace? (path.withExtension spareExtension)).isSome
  file : ((t.makeDirectories path.parent).1.filePlace? path).isSome

def prepared (t : FileTree) (path : FilePath) : FileTree := (t.makeDirectories path.parent).1

inductive Saving (s : Settings) (t : FileTree) (path : FilePath) :
    FileTree → Except Failure Unit → Prop where
  | unwritten (f : Failure)
      (refused : (t.makeDirectories path.parent).2 = false ∨
        (prepared t path).filePlace? (path.withExtension spareExtension) = none) :
      Saving s t path (prepared t path) (.error f)
  | unmoved {source : Place} (f : Failure)
      (leads : (prepared t path).filePlace? (path.withExtension spareExtension) = some source)
      (astray : (prepared t path).filePlace? path = none) :
      Saving s t path ((prepared t path).put source (.file s.fileText)) (.error f)
  | saved {source target : Place} (parent : (t.makeDirectories path.parent).2 = true)
      (leads : (prepared t path).filePlace? (path.withExtension spareExtension) = some source)
      (aims : (prepared t path).filePlace? path = some target) :
      Saving s t path ((((prepared t path).put source (.file s.fileText)).drop source).put target
        (.file s.fileText)) (.ok ())

section
variable {t : FileTree} {path : FilePath}

theorem saving (s : Settings) (t : FileTree) (path : FilePath) :
    Saving s t path (s.save t path).1 (s.save t path).2 := by
  cases parent : (t.makeDirectories path.parent).2 with
  | false =>
    simp only [save, parent]
    exact .unwritten _ (.inl parent)
  | true =>
    cases leads : (prepared t path).filePlace? (path.withExtension spareExtension) with
    | none =>
      have went := Saving.unwritten (.files "the file cannot be written") (.inr leads) (s := s)
      rw [prepared] at leads went
      simpa [save, parent, FileTree.write?, leads] using went
    | some source =>
      cases aims : (prepared t path).filePlace? path with
      | none =>
        have stays := FileTree.rename?_astray leads aims s.fileText
        have went := Saving.unmoved (.files "the file cannot be written") leads aims (s := s)
        rw [prepared] at leads stays went
        simpa [save, parent, FileTree.write?, leads, stays] using went
      | some target =>
        have moved := FileTree.rename?_written leads aims s.fileText
        have went := Saving.saved parent leads aims (s := s)
        rw [prepared] at leads moved went
        simpa [save, parent, FileTree.write?, leads, moved] using went

theorem save_ok_iff (s : Settings) : (s.save t path).2 = .ok () ↔ Writable t path := by
  have went := saving s t path
  generalize (s.save t path).1 = u at went
  generalize (s.save t path).2 = r at went ⊢
  constructor
  · rintro rfl
    cases went with
    | saved parent leads aims =>
      exact ⟨parent, Option.isSome_of_eq_some leads, Option.isSome_of_eq_some aims⟩
  · rintro ⟨parent, spare, file⟩
    cases went with
    | unwritten f refused =>
      rcases refused with unmade | refused
      · exact absurd parent (by simp [unmade])
      · rw [prepared] at refused
        simp [refused] at spare
    | unmoved f leads astray =>
      rw [prepared] at astray
      simp [astray] at file
    | saved parent leads aims => rfl

theorem Saving.reads {s : Settings} {u : FileTree} (saving : Saving s t path u (.ok ())) :
    u.read? path = some s.fileText := by
  cases saving with
  | saved parent leads aims => exact FileTree.read?_moved leads aims s.fileText

theorem save_writable (writable : Writable t path) (s : Settings) :
    ∃ u, s.save t path = (u, .ok ()) ∧ u.read? path = some s.fileText := by
  have went := saving s t path
  have saved := (save_ok_iff s).mpr writable
  rw [saved] at went
  exact ⟨_, Prod.ext rfl saved, went.reads⟩

end

def bytes? (t : FileTree) (path : FilePath) : Option ByteArray :=
  (t.read? path).map fun text => (String.ofList text).toUTF8

theorem loadBytes_bytes? (t : FileTree) (path : FilePath) :
    loadBytes (bytes? t path) = loadFrom t path := by
  unfold loadFrom bytes?
  cases t.read? path with
  | none => rfl
  | some text =>
    have decoded : String.fromUTF8? (String.ofList text).toUTF8 = some (String.ofList text) :=
      dif_pos (String.ofList text).isValidUTF8
    rw [Option.map_some, loadBytes, decoded]
    simp only [String.toList_ofList]

end Settings

/-- Settings that are saved where that goes well are loaded again, at the current version, if they are
    valid, and the reason why they are not else. So what a file is loaded as survives being saved. -/
theorem saved_settings_are_loaded {t : FileTree} {path : FilePath} (writable : Settings.Writable t path)
    (s : Settings) :
    (s.save t path).2 = .ok () ∧
      Settings.loadFrom (s.save t path).1 path =
        s.validate.map (fun _ => { s with version := Settings.currentVersion }) ∧
      Settings.loadBytes (Settings.bytes? (s.save t path).1 path) =
        s.validate.map (fun _ => { s with version := Settings.currentVersion }) ∧
      ∀ text, Settings.load text = .ok s → Settings.loadFrom (s.save t path).1 path = .ok s := by
  obtain ⟨u, saved, reads⟩ := Settings.save_writable writable s
  have loads : Settings.loadFrom u path =
      s.validate.map (fun _ => { s with version := Settings.currentVersion }) := by
    rw [Settings.loadFrom, reads]
    exact s.load_fileText
  rw [saved, Settings.loadBytes_bytes?]
  refine ⟨rfl, loads, loads, fun text loaded => ?_⟩
  obtain ⟨current, valid⟩ := Settings.of_load loaded
  rw [loads, valid, ← current]
  rfl

def Settings.quoted : Settings := { Settings.of "\"\x01\u20ac" "eu" with version := 7 }

theorem quoted_settings_are_loaded :
    Settings.Writable .empty (.ofText "etc/app.json") ∧
      Settings.loadFrom (Settings.quoted.save .empty (.ofText "etc/app.json")).1
          (.ofText "etc/app.json") =
        .ok { Settings.quoted with version := Settings.currentVersion } := by
  have writable : Settings.Writable .empty (.ofText "etc/app.json") :=
    ⟨by decide, by decide, by decide⟩
  have loads := (saved_settings_are_loaded writable Settings.quoted).2.1
  have valid : Settings.quoted.validate = .ok () := rfl
  rw [valid] at loads
  exact ⟨writable, loads⟩

end Registrar
