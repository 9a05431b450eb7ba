import Bookshop.Proofs.Json.Written
import Bookshop.Proofs.Settings.Arranged

/-!
# Files of partial settings

The same partial settings can be kept in a file of either format. Whatever is given, and however
the file arranges and spells it, it is read as the standard settings with what is given laid over
them, so the two formats agree; and both of them have a file of any partial settings. What comes from
outside then changes the address at most.
-/

namespace Bookshop

open List (Forall₂)

namespace Settings

/-! ### Names of files -/

theorem isJsonName_iff {name : String} :
    isJsonName name = true ↔ ∃ stem, name = stem ++ ".json" := by
  rw [isJsonName, List.isSuffixOf_iff_suffix]
  constructor
  · rintro ⟨stem, hstem⟩
    refine ⟨String.ofList stem, ?_⟩
    rw [← String.toList_inj, String.toList_append, String.toList_ofList]
    exact hstem.symm
  · rintro ⟨stem, rfl⟩
    rw [String.toList_append]
    exact List.suffix_append _ _

variable {name text : String} {json : Json} {settings : Settings}

/-- A text of JSON in a file that is named so gives what its tree stands for. -/
theorem ofFile_json (hname : isJsonName name = true) (htext : json.IsText (Utf8.encode text))
    (hread : codec.decode json = .ok settings) :
    ofFile name (some (Utf8.encode text)) = .ok settings := by
  rw [← codec.read_text htext] at hread
  simp only [ofFile, Utf8.decode?_encode, hname, if_true, hread]

theorem ofFile_toml {value : Toml} (hname : isJsonName name = false)
    (hvalue : Toml.read? text = some value) (hread : ofToml? value = some settings) :
    ofFile name (some (Utf8.encode text)) = .ok settings := by
  simp [ofFile, hname, hvalue, hread]

/-! ### What comes from outside -/

variable {lookup : String → Option String} {url : String}

theorem override_of_blank (h : ∀ url, lookup baseUrlVariable = some url → isBlank url = true)
    (settings : Settings) : settings.override lookup = settings := by
  unfold override
  split
  · next url hurl => rw [if_pos (h url hurl)]
  · rfl

theorem override_of_some (hurl : lookup baseUrlVariable = some url) (h : isBlank url = false)
    (settings : Settings) : settings.override lookup = { settings with apiBaseUrl := url } := by
  simp [override, hurl, h]

theorem override_override (lookup : String → Option String) (settings : Settings) :
    (settings.override lookup).override lookup = settings.override lookup := by
  by_cases h : ∀ url, lookup baseUrlVariable = some url → isBlank url = true
  · rw [override_of_blank h, override_of_blank h]
  · push Not at h
    obtain ⟨url, hurl, hblank⟩ := h
    have hfilled : isBlank url = false := Bool.eq_false_iff.2 hblank
    rw [override_of_some hurl hfilled, override_of_some hurl hfilled]

end Settings

namespace Overlay

/-! ### Written files -/

/-- The groups that are written: those in which something is given. -/
def filled (name : String) (entries : List (String × String)) :
    List (String × List (String × String)) :=
  if entries.isEmpty then [] else [(name, entries)]

variable {name : String} {entries : List (String × String)}

theorem groupOf_filled (name : String) (entries : List (String × String)) :
    GroupOf name entries (filled name entries) := by
  cases entries with
  | nil => exact .absent rfl
  | cons entry entries => exact .present (List.Perm.refl _)

theorem isEntry_members (entries : List (String × String)) :
    Forall₂ IsEntry entries (members entries) := by
  induction entries with
  | nil => exact .nil
  | cons entry entries ih =>
    have hentry : IsEntry entry (Quoted.ofText entry.1, Json.text entry.2) :=
      ⟨Quoted.toText?_ofText entry.1, _, rfl, Quoted.toText?_ofText entry.2⟩
    exact .cons hentry ih

theorem isGroup_group? (name : String) (entries : List (String × String)) :
    Forall₂ IsGroup (filled name entries) (group? name entries) := by
  cases entries with
  | nil => exact .nil
  | cons entry entries =>
    exact .cons ⟨Quoted.toText?_ofText name, _, rfl, isEntry_members (entry :: entries)⟩ .nil

/-- The member has a text for a name, and its value can be written. -/
def IsWritten (member : Member) : Prop :=
  (∃ name, Quoted.ofText name = member.1) ∧ member.2.Writable

theorem isWritten_members (entries : List (String × String)) :
    ∀ member ∈ members entries, IsWritten member := by
  intro member hmember
  obtain ⟨entry, -, rfl⟩ := List.mem_map.1 hmember
  exact ⟨⟨entry.1, rfl⟩, Json.writable_text entry.2⟩

theorem isWritten_group? (name : String) (entries : List (String × String)) :
    ∀ member ∈ group? name entries, IsWritten member := by
  intro member hmember
  cases entries with
  | nil => cases hmember
  | cons entry entries =>
    obtain rfl := List.mem_singleton.1 hmember
    exact ⟨⟨name, rfl⟩, Json.writable_record (isWritten_members _)⟩

theorem isBareName_of_sublist {names : List String} (h : (entries.map Prod.fst).Sublist names)
    (hnames : ∀ name ∈ names, Toml.IsBareName name) : ∀ entry ∈ entries, Toml.IsBareName entry.1 :=
  fun _ hentry => hnames _ (h.subset (List.mem_map_of_mem hentry))

theorem tablesSpelledAs_filled {tables : List (String × List (String × String))} {rest : List Char}
    (hname : Toml.IsBareName name) (h : ∀ entry ∈ entries, Toml.IsBareName entry.1)
    (hrest : Toml.TablesSpelledAs tables rest) :
    Toml.TablesSpelledAs (filled name entries ++ tables)
      (Toml.writeTable name entries ++ rest) := by
  cases entries with
  | nil => exact hrest
  | cons entry entries =>
    exact Toml.tablesSpelledAs_writeTable hname (List.cons_ne_nil _ _) h hrest

/-- The groups that are written of the settings. -/
def written (overlay : Overlay) : List (String × List (String × String)) :=
  filled "storage" overlay.storage ++ filled "logging" overlay.logging

variable (overlay : Overlay)

theorem arrangedAs_written : overlay.ArrangedAs overlay.general overlay.written where
  entries := List.Perm.refl _
  groups := ⟨_, _, groupOf_filled _ _, groupOf_filled _ _, List.Perm.refl _⟩

theorem isObjectOf_toJson : IsObjectOf overlay.general overlay.written overlay.toJson := by
  have hgroups := List.rel_append (isGroup_group? "storage" overlay.storage)
    (isGroup_group? "logging" overlay.logging)
  refine ⟨_, _, _, isEntry_members overlay.general, hgroups, List.Perm.refl _, ?_⟩
  rw [toJson, List.append_assoc]

theorem writable_toJson : overlay.toJson.Writable := by
  apply Json.writable_record
  have hgeneral := isWritten_members overlay.general
  have hstorage := isWritten_group? "storage" overlay.storage
  have hlogging := isWritten_group? "logging" overlay.logging
  exact List.forall_mem_append.2 ⟨List.forall_mem_append.2 ⟨hgeneral, hstorage⟩, hlogging⟩

theorem isDocument_toToml : Toml.IsDocument overlay.general overlay.written overlay.toToml := by
  have hgeneral := isBareName_of_sublist overlay.names_general (by decide)
  have hstorage := isBareName_of_sublist overlay.names_storage (by decide)
  have hlogging := isBareName_of_sublist overlay.names_logging (by decide)
  have hlast : Toml.TablesSpelledAs (filled "logging" overlay.logging)
      (Toml.writeTable "logging" overlay.logging) := by
    rw [← List.append_nil (filled _ _), ← List.append_nil (Toml.writeTable _ _)]
    exact tablesSpelledAs_filled (by decide) hlogging .done
  refine ⟨_, ?_, tablesSpelledAs_filled (by decide) hstorage hlast⟩
  rw [toToml, String.toList_ofList, List.append_assoc]
  exact Toml.entriesSpelledAs_writeEntries hgeneral _

end Overlay

/-! ### Both formats -/

/-- **Files of partial settings.** Whatever is given of the settings, and in whatever order: an
    object of it in a file whose name ends in `.json`, and a document of it in a file with any other
    name, are both read as the standard settings with what is given laid over them, however they
    spell it. There is an object and a document of anything that may be given. An address from
    outside then replaces the one that was read if it is not blank; otherwise nothing changes, and
    it makes no difference if it is asked for again. -/
theorem Settings.files_agree (overlay : Overlay) :
    (∀ entries groups, overlay.ArrangedAs entries groups →
      (∀ json text stem, Overlay.IsObjectOf entries groups json → json.IsText (Utf8.encode text) →
        ofFile (stem ++ ".json") (some (Utf8.encode text)) = .ok (overlay.onto .standard)) ∧
      ∀ text name, Toml.IsDocument entries groups text → (∀ stem, name ≠ stem ++ ".json") →
        ofFile name (some (Utf8.encode text)) = .ok (overlay.onto .standard)) ∧
    (∃ entries groups text, overlay.ArrangedAs entries groups ∧
      Overlay.IsObjectOf entries groups overlay.toJson ∧
      Utf8.encode text = overlay.toJson.spell ∧ overlay.toJson.IsText (Utf8.encode text) ∧
      Toml.IsDocument entries groups overlay.toToml) ∧
    ∀ (settings : Settings) (lookup : String → Option String),
      (∀ url, lookup baseUrlVariable = some url → (∃ c ∈ url.toList, isWhiteSpace c = false) →
        settings.override lookup = { settings with apiBaseUrl := url }) ∧
      ((∀ url, lookup baseUrlVariable = some url → ∀ c ∈ url.toList, isWhiteSpace c = true) →
        settings.override lookup = settings) ∧
      (settings.override lookup).override lookup = settings.override lookup := by
  refine ⟨?_, ?_, ?_⟩
  · intro entries groups harranged
    constructor
    · intro json text stem hobject htext
      exact ofFile_json (isJsonName_iff.2 ⟨stem, rfl⟩) htext (harranged.decode_object hobject)
    · intro text name hdocument hname
      have hother : isJsonName name = false := by
        rw [Bool.eq_false_iff]
        intro hjson
        obtain ⟨stem, hstem⟩ := isJsonName_iff.1 hjson
        exact hname stem hstem
      have hread := Toml.read?_of_isDocument hdocument harranged.nodup harranged.groups_nodup
      exact ofFile_toml hother hread harranged.ofToml?_table
  · have hwritable := overlay.writable_toJson
    obtain ⟨text, hspelled⟩ := hwritable.isUtf8
    refine ⟨_, _, text, overlay.arrangedAs_written, overlay.isObjectOf_toJson, hspelled, ?_,
      overlay.isDocument_toToml⟩
    rw [hspelled]
    exact Json.isText_spell hwritable.wellFormed
  · intro settings lookup
    refine ⟨?_, ?_, override_override lookup settings⟩
    · rintro url hurl ⟨c, hc, hplain⟩
      refine override_of_some hurl ?_ settings
      rw [isBlank, List.all_eq_false]
      exact ⟨c, hc, by simp [hplain]⟩
    · intro hblank
      refine override_of_blank ?_ settings
      intro url hurl
      exact List.all_eq_true.2 (hblank url hurl)

/-- A key and a level, as they are written. -/
example :
    let overlay : Overlay := { cartKey := some "my \"cart\"", level := some "debug" }
    overlay.toToml =
        "[storage]\ncart_key = \"my \\\"cart\\\"\"\n[logging]\nlevel = \"debug\"\n" ∧
      Settings.ofFile "shop.toml" (some (Utf8.encode overlay.toToml)) =
        .ok (overlay.onto .standard) := by
  decide +kernel

end Bookshop
