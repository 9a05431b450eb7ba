import Mathlib.Data.List.Perm.Basic
import Bookshop.Proofs.Toml.Reading
import Bookshop.Proofs.Wire.Partial
import Bookshop.Settings.Overlay

/-!
# Arrangements of partial settings

What is given of the settings can be written down as entries and groups of entries, each in any
order, and a group in which nothing is given may be there or not. That much is the same in both
formats (`ArrangedAs`). An object has an arrangement when its members are the entries and the
groups, in any order and with any spelling of names and texts (`IsObjectOf`).

Either format reads every arrangement as the standard settings with what is given laid over them.
-/

namespace Bookshop

open List (Forall₂)

namespace Overlay

/-! ### Arrangements -/

/-- The list has the entries under the name, or nothing if there are none. -/
inductive GroupOf (name : String) (entries : List (String × String)) :
    List (String × List (String × String)) → Prop where
  | absent (h : entries = []) : GroupOf name entries []
  | present {ordered : List (String × String)} (h : ordered.Perm entries) :
      GroupOf name entries [(name, ordered)]

/-- The entries and the groups of entries are what is given, in any order. -/
structure ArrangedAs (overlay : Overlay) (entries : List (String × String))
    (groups : List (String × List (String × String))) : Prop where
  entries : entries.Perm overlay.general
  groups : ∃ storage logging, GroupOf "storage" overlay.storage storage ∧
    GroupOf "logging" overlay.logging logging ∧ groups.Perm (storage ++ logging)

/-! ### Names -/

variable {name : String} {overlay : Overlay} {entries : List (String × String)}
  {groups group : List (String × List (String × String))}

theorem names_entry (name : String) (value? : Option String) :
    ((entry name value?).map Prod.fst).Sublist [name] := by
  cases value? with
  | none => exact List.nil_sublist _
  | some value => exact List.Sublist.refl _

theorem names_general (overlay : Overlay) :
    (overlay.general.map Prod.fst).Sublist ["api_base_url"] :=
  names_entry _ _

theorem names_storage (overlay : Overlay) :
    (overlay.storage.map Prod.fst).Sublist ["kind", "dir", "cart_key"] := by
  rw [storage, List.map_append, List.map_append]
  exact ((names_entry _ _).append (names_entry _ _)).append (names_entry _ _)

theorem names_logging (overlay : Overlay) :
    (overlay.logging.map Prod.fst).Sublist ["level", "format"] := by
  rw [logging, List.map_append]
  exact (names_entry _ _).append (names_entry _ _)

theorem GroupOf.names (h : GroupOf name entries group) : (group.map Prod.fst).Sublist [name] := by
  cases h with
  | absent => exact List.nil_sublist _
  | present => exact List.Sublist.refl _

/-- No two entries or groups have the same name. -/
theorem ArrangedAs.nodup (h : overlay.ArrangedAs entries groups) :
    (entries.map Prod.fst ++ groups.map Prod.fst).Nodup := by
  obtain ⟨hentries, storage, logging, hstorage, hlogging, hgroups⟩ := h
  have hsublist : (overlay.general.map Prod.fst ++ (storage ++ logging).map Prod.fst).Sublist
      ["api_base_url", "storage", "logging"] := by
    rw [List.map_append]
    exact overlay.names_general.append (hstorage.names.append hlogging.names)
  have hnames := (hentries.map Prod.fst).append (hgroups.map Prod.fst)
  rw [hnames.nodup_iff]
  exact hsublist.nodup (by decide)

theorem GroupOf.nodup (h : GroupOf name entries group) (hnames : (entries.map Prod.fst).Nodup) :
    ∀ named ∈ group, (named.2.map Prod.fst).Nodup := by
  intro named hnamed
  cases h with
  | absent => cases hnamed
  | present hordered =>
    obtain rfl := List.mem_singleton.1 hnamed
    rw [(hordered.map Prod.fst).nodup_iff]
    exact hnames

theorem ArrangedAs.groups_nodup (h : overlay.ArrangedAs entries groups) :
    ∀ named ∈ groups, (named.2.map Prod.fst).Nodup := by
  obtain ⟨-, storage, logging, hstorage, hlogging, hgroups⟩ := h
  intro named hnamed
  rcases List.mem_append.1 (hgroups.mem_iff.1 hnamed) with hnamed | hnamed
  · exact hstorage.nodup (overlay.names_storage.nodup (by decide)) named hnamed
  · exact hlogging.nodup (overlay.names_logging.nodup (by decide)) named hnamed

/-! ### Objects -/

/-- The member has the name of the entry and holds its text, both spelled in any way. -/
def IsEntry (entry : String × String) (member : Member) : Prop :=
  Quoted.toText? member.1 = some entry.1 ∧
    ∃ raw, member.2 = .string raw ∧ Quoted.toText? raw = some entry.2

/-- The member has the name of the group and holds an object of its entries. -/
def IsGroup (group : String × List (String × String)) (member : Member) : Prop :=
  Quoted.toText? member.1 = some group.1 ∧
    ∃ members, member.2 = .record members true ∧ Forall₂ IsEntry group.2 members

/-- The tree is an object of the entries and the groups, in any order. -/
def IsObjectOf (entries : List (String × String)) (groups : List (String × List (String × String)))
    (json : Json) : Prop :=
  ∃ own inner members, Forall₂ IsEntry entries own ∧ Forall₂ IsGroup groups inner ∧
    members.Perm (own ++ inner) ∧ json = .record members true

end Overlay

/-! ### Reading objects -/

section Objects

open Overlay (GroupOf IsEntry IsGroup)

variable {α ρ σ : Type} {name : String} {codec : Codec α} {default : α} {rest : Fields ρ σ}
  {found : σ} {own others : List Member}

/-- A value is read from the text that it is spelled as. -/
def Codec.ReadsText (codec : Codec α) (spell : α → String) : Prop :=
  ∀ value raw, Quoted.toText? raw = some (spell value) → codec.decode (.string raw) = .ok value

theorem Codec.text_readsText : Codec.text.ReadsText id := by
  intro value raw h
  simp only [Codec.text, h, id_eq]

theorem StorageKind.readsText : (Codec.choice StorageKind.names).ReadsText StorageKind.name := by
  intro kind raw h
  cases kind <;> simp only [Codec.choice, Codec.choose, h] <;> rfl

theorem LogFormat.readsText : (Codec.choice LogFormat.names).ReadsText LogFormat.name := by
  intro format raw h
  cases format <;> simp only [Codec.choice, Codec.choose, h] <;> rfl

/-- A field for which an entry is given or not. -/
theorem Fields.Listed.entry {default? : Option α} {spell : α → String}
    (hcodec : codec.ReadsText spell) {value? : Option α} {text? : Option String}
    (htext : text? = value?.map spell) (hown : Forall₂ IsEntry (Overlay.entry name text?) own)
    (hrest : rest.Listed found others) :
    (Fields.field name default? codec rest).Listed (value?, found) (own ++ others) := by
  subst htext
  cases value? with
  | none =>
    cases hown
    exact .absent hrest
  | some value =>
    obtain ⟨⟨raw, json⟩, members, ⟨hname, rawValue, rfl, hvalue⟩, hnil, rfl⟩ :=
      List.forall₂_cons_left_iff.1 hown
    cases hnil
    exact .present hname (hcodec value rawValue hvalue) hrest

/-- A field for which a group is given or not, when the group without entries is the default. -/
theorem Fields.Listed.group {entries : List (String × String)}
    {group : List (String × List (String × String))} (hgroup : GroupOf name entries group)
    {value : α}
    (hread : ∀ {ordered members}, ordered.Perm entries → Forall₂ IsEntry ordered members →
      codec.decode (.record members true) = .ok value)
    (hdefault : entries = [] → value = default) (hown : Forall₂ IsGroup group own)
    (hrest : rest.Listed found others) :
    ∃ found?, (Fields.field name (some default) codec rest).Listed (found?, found) (own ++ others) ∧
      found?.getD default = value := by
  cases hgroup with
  | absent hempty =>
    cases hown
    exact ⟨.none, .absent hrest, (hdefault hempty).symm⟩
  | present hordered =>
    obtain ⟨⟨raw, json⟩, members, ⟨hname, inner, rfl, hinner⟩, hnil, rfl⟩ :=
      List.forall₂_cons_left_iff.1 hown
    cases hnil
    exact ⟨some value, .present hname (hread hordered hinner) hrest, rfl⟩

end Objects

theorem forall₂_append_left {α β : Type} {R : α → β → Prop} {l l' : List α} {bs : List β}
    (h : Forall₂ R (l ++ l') bs) : ∃ b b', Forall₂ R l b ∧ Forall₂ R l' b' ∧ bs = b ++ b' := by
  have htake := List.forall₂_take l.length h
  have hdrop := List.forall₂_drop l.length h
  rw [List.take_left] at htake
  rw [List.drop_left] at hdrop
  exact ⟨_, _, htake, hdrop, (List.take_append_drop l.length bs).symm⟩

namespace Overlay

variable {overlay : Overlay} {entries ordered : List (String × String)}
  {groups : List (String × List (String × String))} {members : List Member} {json : Json}

theorem eq_map_id (text? : Option String) : text? = text?.map id := Option.map_id_apply.symm

theorem storage_decode (hordered : ordered.Perm overlay.storage)
    (h : Forall₂ IsEntry ordered members) :
    StorageSettings.codec.decode (.record members true) = .ok (overlay.onto .standard).storage := by
  obtain ⟨listed, hlisted, hperm⟩ := List.perm_comp_forall₂ hordered.symm h
  obtain ⟨first, key, hfirst, hkey, rfl⟩ := forall₂_append_left hlisted
  obtain ⟨kind, dir, hkind, hdir, rfl⟩ := forall₂_append_left hfirst
  rw [List.append_assoc, ← List.append_nil key] at hperm
  rw [StorageSettings.codec]
  exact Codec.record_decode_listed
    (.entry StorageKind.readsText rfl hkind <|
      .entry Codec.text_readsText (eq_map_id _) hdir <|
      .entry Codec.text_readsText (eq_map_id _) hkey .done)
    (by decide) hperm.symm ⟨by simp only [Fields.complete, Option.or_some]; rfl, rfl⟩

theorem logging_decode (hordered : ordered.Perm overlay.logging)
    (h : Forall₂ IsEntry ordered members) :
    LogSettings.codec.decode (.record members true) = .ok (overlay.onto .standard).logging := by
  obtain ⟨listed, hlisted, hperm⟩ := List.perm_comp_forall₂ hordered.symm h
  obtain ⟨level, format, hlevel, hformat, rfl⟩ := forall₂_append_left hlisted
  rw [← List.append_nil format] at hperm
  rw [LogSettings.codec]
  exact Codec.record_decode_listed
    (.entry Codec.text_readsText (eq_map_id _) hlevel <|
      .entry LogFormat.readsText rfl hformat .done)
    (by decide) hperm.symm ⟨by simp only [Fields.complete, Option.or_some]; rfl, rfl⟩

/-- Where nothing is given in a group, it is the standard one. -/
theorem storage_of_nil (h : overlay.storage = []) :
    (overlay.onto .standard).storage = .standard := by
  simp only [storage, entry, List.append_eq_nil_iff, Option.toList_eq_nil_iff,
    Option.map_eq_none_iff] at h
  simp only [onto, h, Option.getD_none]
  rfl

theorem logging_of_nil (h : overlay.logging = []) :
    (overlay.onto .standard).logging = .standard := by
  simp only [logging, entry, List.append_eq_nil_iff, Option.toList_eq_nil_iff,
    Option.map_eq_none_iff] at h
  simp only [onto, h, Option.getD_none]
  rfl

/-- **Objects of settings.** Whatever is given, and in whatever order, an object of it reads as the
    standard settings with what is given laid over them. -/
theorem ArrangedAs.decode_object (h : overlay.ArrangedAs entries groups)
    (hobject : IsObjectOf entries groups json) :
    Settings.codec.decode json = .ok (overlay.onto .standard) := by
  obtain ⟨hentries, storage, logging, hstorage, hlogging, hgroups⟩ := h
  obtain ⟨own, inner, members, hown, hinner, hmembers, rfl⟩ := hobject
  obtain ⟨url, hurl, hurlPerm⟩ := List.perm_comp_forall₂ hentries.symm hown
  obtain ⟨listed, hlisted, hlistedPerm⟩ := List.perm_comp_forall₂ hgroups.symm hinner
  obtain ⟨first, second, hfirst, hsecond, rfl⟩ := forall₂_append_left hlisted
  obtain ⟨logging?, hlog, hlogged⟩ :=
    Fields.Listed.group hlogging logging_decode logging_of_nil hsecond .done
  obtain ⟨storage?, hstore, hstored⟩ :=
    Fields.Listed.group hstorage storage_decode storage_of_nil hfirst hlog
  have hperm : members.Perm (url ++ (first ++ (second ++ []))) := by
    rw [List.append_nil]
    exact hmembers.trans (hurlPerm.symm.append hlistedPerm.symm)
  rw [Settings.codec]
  refine Codec.record_decode_listed (.entry Codec.text_readsText (eq_map_id _) hurl hstore)
    (by decide) hperm ⟨by simp only [Fields.complete, Option.or_some]; rfl, ?_⟩
  simp only [hlogged, hstored]
  rfl

end Overlay

/-! ### Reading tables -/

namespace Toml

/-- With different names, an entry is found wherever it stands. -/
theorem find?_eq_some_iff {entries : Entries} (h : (entries.map Prod.fst).Nodup) {name : String}
    {value : Toml} : find? name entries = some value ↔ (name, value) ∈ entries := by
  induction entries with
  | nil => simp [find?]
  | cons entry entries ih =>
    obtain ⟨first, old⟩ := entry
    rw [List.map_cons, List.nodup_cons] at h
    rw [find?, List.mem_cons, Prod.mk.injEq]
    by_cases heq : first = name
    · subst heq
      have habsent : (first, value) ∉ entries := fun hmem => h.1 (List.mem_map.2 ⟨_, hmem, rfl⟩)
      simp [habsent, eq_comm]
    · rw [if_neg heq, ih h.2]
      simp [Ne.symm heq]

theorem find?_perm {entries entries' : Entries} (hperm : entries.Perm entries')
    (h : (entries.map Prod.fst).Nodup) (name : String) :
    find? name entries = find? name entries' := by
  have h' : (entries'.map Prod.fst).Nodup := (hperm.map Prod.fst).nodup_iff.1 h
  apply Option.ext
  intro value
  rw [find?_eq_some_iff h, find?_eq_some_iff h', hperm.mem_iff]

theorem ofTexts_append (entries entries' : List (String × String)) :
    ofTexts (entries ++ entries') = ofTexts entries ++ ofTexts entries' := List.map_append

theorem ofTables_append (tables tables' : List (String × List (String × String))) :
    ofTables (tables ++ tables') = ofTables tables ++ ofTables tables' := List.map_append

theorem find?_entry_of_ne {name other : String} (h : other ≠ name) (text? : Option String) :
    find? name (ofTexts (Overlay.entry other text?)) = none := by
  cases text? with
  | none => rfl
  | some text =>
    simp only [Overlay.entry, Option.map_some, Option.toList_some, ofTexts, List.map_cons,
      List.map_nil, find?, if_neg h]

theorem find?_group_of_ne {name other : String} (h : other ≠ name)
    {entries : List (String × String)} {group : List (String × List (String × String))}
    (hgroup : Overlay.GroupOf other entries group) : find? name (ofTables group) = none := by
  cases hgroup with
  | absent => rfl
  | present => simp only [ofTables, List.map_cons, List.map_nil, find?, if_neg h]

variable {α : Type} {table : Entries} {position : Nat} {name : String} {read : Toml → Option α}

/-- A field for which an entry is given or not. -/
theorem field?_entry {spell : α → String} {value? : Option α} {text? : Option String}
    (htext : text? = value?.map spell) (hread : ∀ value, read (.text (spell value)) = some value)
    (hfind : find? name table = find? name (ofTexts (Overlay.entry name text?))) (default : α) :
    field? (fun _ name => find? name table) position name read default =
      some (value?.getD default) := by
  subst htext
  rw [field?, hfind]
  cases value? with
  | none => rfl
  | some value =>
    simp only [Overlay.entry, Option.map_some, Option.toList_some, ofTexts, List.map_cons,
      List.map_nil, find?, if_pos, hread, Option.getD_some]

theorem field?_text {text? : Option String}
    (hfind : find? name table = find? name (ofTexts (Overlay.entry name text?)))
    (default : String) :
    field? (fun _ name => find? name table) position name asText? default =
      some (text?.getD default) :=
  field?_entry (Overlay.eq_map_id text?) (fun _ => rfl) hfind default

/-- A field for which a group is given or not, when the group without entries is the default. -/
theorem field?_group {entries : List (String × String)}
    {group : List (String × List (String × String))} (hgroup : Overlay.GroupOf name entries group)
    {value default : α}
    (hread : ∀ {ordered}, ordered.Perm entries →
      read (.table .header (ofTexts ordered)) = some value)
    (hdefault : entries = [] → value = default)
    (hfind : find? name table = find? name (ofTables group)) :
    field? (fun _ name => find? name table) position name read default = some value := by
  rw [field?, hfind]
  cases hgroup with
  | absent hempty => exact congrArg some (hdefault hempty).symm
  | present hordered =>
    simp only [ofTables, List.map_cons, List.map_nil, find?, if_pos, hread hordered]

end Toml

namespace Overlay

open Toml (find?_append find?_entry_of_ne find?_group_of_ne field?_entry field?_group field?_text
  ofTexts ofTexts_append ofTables ofTables_append)

variable {overlay : Overlay} {entries ordered : List (String × String)}
  {groups : List (String × List (String × String))}

/-- What a name stands for in a table does not depend on the order of its entries. -/
theorem find?_ofTexts_perm (hperm : ordered.Perm entries) (hnames : (entries.map Prod.fst).Nodup)
    (name : String) : Toml.find? name (ofTexts ordered) = Toml.find? name (ofTexts entries) := by
  have hordered : ((ofTexts ordered).map Prod.fst).Nodup := by
    rw [Toml.map_fst_ofTexts, (hperm.map Prod.fst).nodup_iff]
    exact hnames
  exact Toml.find?_perm (hperm.map _) hordered name

theorem asChoice?_kindName (kind : StorageKind) :
    Toml.asChoice? StorageKind.names (.text kind.name) = some kind := by
  cases kind <;> rfl

theorem asChoice?_formatName (format : LogFormat) :
    Toml.asChoice? LogFormat.names (.text format.name) = some format := by
  cases format <;> rfl

theorem storage_ofToml? (hordered : ordered.Perm overlay.storage) :
    StorageSettings.ofToml? (.table .header (ofTexts ordered)) =
      some (overlay.onto .standard).storage := by
  have hfind := find?_ofTexts_perm hordered (overlay.names_storage.nodup (by decide))
  simp only [storage, ofTexts_append, find?_append] at hfind
  have hkind : Toml.find? "kind" (ofTexts ordered) =
      Toml.find? "kind" (ofTexts (entry "kind" (overlay.kind.map StorageKind.name))) := by
    simp [hfind, find?_entry_of_ne]
  have hdir : Toml.find? "dir" (ofTexts ordered) =
      Toml.find? "dir" (ofTexts (entry "dir" overlay.dir)) := by
    simp [hfind, find?_entry_of_ne]
  have hkey : Toml.find? "cart_key" (ofTexts ordered) =
      Toml.find? "cart_key" (ofTexts (entry "cart_key" overlay.cartKey)) := by
    simp [hfind, find?_entry_of_ne]
  simp only [StorageSettings.ofToml?, Toml.asRecord?, Option.bind_eq_bind, Option.bind_some,
    field?_entry rfl asChoice?_kindName hkind, field?_text hdir, field?_text hkey]
  rfl

theorem logging_ofToml? (hordered : ordered.Perm overlay.logging) :
    LogSettings.ofToml? (.table .header (ofTexts ordered)) =
      some (overlay.onto .standard).logging := by
  have hfind := find?_ofTexts_perm hordered (overlay.names_logging.nodup (by decide))
  simp only [logging, ofTexts_append, find?_append] at hfind
  have hlevel : Toml.find? "level" (ofTexts ordered) =
      Toml.find? "level" (ofTexts (entry "level" overlay.level)) := by
    simp [hfind, find?_entry_of_ne]
  have hformat : Toml.find? "format" (ofTexts ordered) =
      Toml.find? "format" (ofTexts (entry "format" (overlay.format.map LogFormat.name))) := by
    simp [hfind, find?_entry_of_ne]
  simp only [LogSettings.ofToml?, Toml.asRecord?, Option.bind_eq_bind, Option.bind_some,
    field?_text hlevel, field?_entry rfl asChoice?_formatName hformat]
  rfl

theorem standard_storage : Settings.standard.storage = .standard := rfl

theorem standard_logging : Settings.standard.logging = .standard := rfl

/-- **Tables of settings.** Whatever is given, and in whatever order, a table of it reads as the
    standard settings with what is given laid over them. -/
theorem ArrangedAs.ofToml?_table (h : overlay.ArrangedAs entries groups) :
    Settings.ofToml? (.table .header (ofTexts entries ++ ofTables groups)) =
      some (overlay.onto .standard) := by
  have hnodup := h.nodup
  obtain ⟨hentries, storage, logging, hstorage, hlogging, hgroups⟩ := h
  have hfind (name : String) : Toml.find? name (ofTexts entries ++ ofTables groups) =
      (Toml.find? name (ofTexts overlay.general)).or
        ((Toml.find? name (ofTables storage)).or (Toml.find? name (ofTables logging))) := by
    have hperm : (ofTexts entries ++ ofTables groups).Perm
        (ofTexts overlay.general ++ ofTables (storage ++ logging)) :=
      (hentries.map _).append (hgroups.map _)
    rw [Toml.find?_perm hperm, ofTables_append, find?_append, find?_append]
    rw [List.map_append, Toml.map_fst_ofTexts, Toml.map_fst_ofTables]
    exact hnodup
  have hurl : Toml.find? "api_base_url" (ofTexts entries ++ ofTables groups) =
      Toml.find? "api_base_url" (ofTexts (entry "api_base_url" overlay.apiBaseUrl)) := by
    simp [hfind, general, find?_group_of_ne _ hstorage, find?_group_of_ne _ hlogging]
  have hstore : Toml.find? "storage" (ofTexts entries ++ ofTables groups) =
      Toml.find? "storage" (ofTables storage) := by
    simp [hfind, general, find?_entry_of_ne, find?_group_of_ne _ hlogging]
  have hlog : Toml.find? "logging" (ofTexts entries ++ ofTables groups) =
      Toml.find? "logging" (ofTables logging) := by
    simp [hfind, general, find?_entry_of_ne, find?_group_of_ne _ hstorage]
  simp only [Settings.ofToml?, Toml.asRecord?, Option.bind_eq_bind, Option.bind_some,
    standard_storage, standard_logging, field?_text hurl,
    field?_group hstorage storage_ofToml? storage_of_nil hstore,
    field?_group hlogging logging_ofToml? logging_of_nil hlog]
  rfl

end Overlay

end Bookshop
