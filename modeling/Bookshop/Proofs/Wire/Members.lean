import Bookshop.Proofs.Json.Reading
import Bookshop.Wire.Codec

/-!
# Members of records

A record is read by noting its members one after another. A member that is no field's is passed
over, with whatever it holds, and noting one member does not depend on the others as long as it
succeeds: so two members can change places (`note_swap`), and all of them can (`noteAll_perm`).
Which of several problems is reported does depend on the order; nothing is said about that.

What is noted for a field stays, so a record that is read has in each field what the member of that
name reads as (`record_decode_gives`).
-/

namespace Bookshop

namespace Fields

variable {ρ σ : Type} {fields : Fields ρ σ} {key key' : String} {json json' : Json}

/-! ### Noting one member -/

section Field

variable {α : Type} {name : String} {default? : Option α} {codec : Codec α} {found : Option α}
  {others : σ} {result : Option α × σ}

theorem note_field_self :
    (field name default? codec fields).note name json (found, others) = .ok result ↔
      found = .none ∧ ∃ value, codec.decode json = .ok value ∧ result = (some value, others) := by
  cases found with
  | some value => simp [note]
  | none => cases hdecode : codec.decode json <;> simp [note, hdecode, eq_comm]

theorem note_field_of_ne (h : key ≠ name) :
    (field name default? codec fields).note key json (found, others) = .ok result ↔
      ∃ noted, fields.note key json others = .ok noted ∧ result = (found, noted) := by
  cases hnote : fields.note key json others <;> simp [note, h, hnote, eq_comm]

end Field

/-- A member that is no field's is passed over, whatever it holds. -/
theorem note_foreign (h : key ∉ fields.names) (json : Json) (found : σ) :
    fields.note key json found = .ok found := by
  induction fields with
  | done => rfl
  | field name default? codec rest ih =>
    have hne : key ≠ name := fun heq => h (heq ▸ List.mem_cons_self)
    have hrest : key ∉ rest.names := fun hmem => h (List.mem_cons_of_mem _ hmem)
    exact (note_field_of_ne hne).2 ⟨_, ih hrest _, rfl⟩

/-- Two members can be noted in the other order. -/
theorem note_swap {found noted result : σ} (h : fields.note key json found = .ok noted)
    (h' : fields.note key' json' noted = .ok result) :
    ∃ noted', fields.note key' json' found = .ok noted' ∧
      fields.note key json noted' = .ok result := by
  induction fields with
  | done => exact ⟨(), rfl, rfl⟩
  | field name default? codec rest ih =>
    obtain ⟨value?, others⟩ := found
    by_cases hkey : key = name
    · subst hkey
      obtain ⟨rfl, value, hvalue, rfl⟩ := note_field_self.1 h
      by_cases hkey' : key' = key
      · -- The field is found already, so noting it again would have failed.
        subst hkey'
        exact absurd (note_field_self.1 h').1 (Option.some_ne_none value)
      · obtain ⟨others', hnoted, rfl⟩ := (note_field_of_ne hkey').1 h'
        exact ⟨(.none, others'), (note_field_of_ne hkey').2 ⟨others', hnoted, rfl⟩,
          note_field_self.2 ⟨rfl, value, hvalue, rfl⟩⟩
    · obtain ⟨others', hnoted, rfl⟩ := (note_field_of_ne hkey).1 h
      by_cases hkey' : key' = name
      · subst hkey'
        obtain ⟨rfl, value, hvalue, rfl⟩ := note_field_self.1 h'
        exact ⟨(some value, others), note_field_self.2 ⟨rfl, value, hvalue, rfl⟩,
          (note_field_of_ne hkey).2 ⟨others', hnoted, rfl⟩⟩
      · obtain ⟨others'', hnoted', rfl⟩ := (note_field_of_ne hkey').1 h'
        obtain ⟨swapped, hfirst, hsecond⟩ := ih hnoted hnoted'
        exact ⟨(value?, swapped), (note_field_of_ne hkey').2 ⟨swapped, hfirst, rfl⟩,
          (note_field_of_ne hkey).2 ⟨others'', hsecond, rfl⟩⟩

/-- The field of the name is read by the codec. -/
inductive Has : {ρ σ α : Type} → Fields ρ σ → String → Codec α → Prop where
  | here {ρ σ α : Type} {name : String} {default? : Option α} {codec : Codec α}
      {rest : Fields ρ σ} : Has (field name default? codec rest) name codec
  | there {ρ σ α β : Type} {name key : String} {default? : Option α} {codec : Codec α}
      {codec' : Codec β} {rest : Fields ρ σ} (hne : key ≠ name) (h : Has rest key codec') :
      Has (field name default? codec rest) key codec'

/-- All that a member does is done by what its value reads as. -/
theorem note_congr {α : Type} {codec : Codec α} (hfield : fields.Has key codec)
    (h : ∀ value, codec.decode json = .ok value → codec.decode json' = .ok value)
    {found result : σ} (hnote : fields.note key json found = .ok result) :
    fields.note key json' found = .ok result := by
  induction hfield with
  | here =>
    obtain ⟨hnone, value, hvalue, rfl⟩ := note_field_self.1 hnote
    exact note_field_self.2 ⟨hnone, value, h value hvalue, rfl⟩
  | there hne _ ih =>
    obtain ⟨noted, hrest, rfl⟩ := (note_field_of_ne hne).1 hnote
    exact (note_field_of_ne hne).2 ⟨noted, ih h hrest, rfl⟩

/-! ### Noting all members -/

variable {members members' : List Member} {raw : Bytes} {found result : σ}

theorem noteAll_cons :
    fields.noteAll ((raw, json) :: members) found = .ok result ↔
      ∃ key noted, Quoted.toText? raw = some key ∧ fields.note key json found = .ok noted ∧
        fields.noteAll members noted = .ok result := by
  rw [noteAll]
  cases Quoted.toText? raw with
  | none => simp
  | some key => cases hnote : fields.note key json found <;> simp [hnote]

theorem noteAll_foreign (hname : Quoted.toText? raw = some key) (hforeign : key ∉ fields.names) :
    fields.noteAll ((raw, json) :: members) found = .ok result ↔
      fields.noteAll members found = .ok result := by
  rw [noteAll_cons]
  constructor
  · rintro ⟨key', noted, hname', hnote, hrest⟩
    cases hname.symm.trans hname'
    cases (note_foreign hforeign json found).symm.trans hnote
    exact hrest
  · intro hrest
    exact ⟨key, found, hname, note_foreign hforeign json found, hrest⟩

theorem noteAll_congr {α : Type} {codec : Codec α} (hname : Quoted.toText? raw = some key)
    (hfield : fields.Has key codec)
    (h : ∀ value, codec.decode json = .ok value → codec.decode json' = .ok value)
    (hnote : fields.noteAll ((raw, json) :: members) found = .ok result) :
    fields.noteAll ((raw, json') :: members) found = .ok result := by
  obtain ⟨key', noted, hname', hfirst, hrest⟩ := noteAll_cons.1 hnote
  cases hname.symm.trans hname'
  exact noteAll_cons.2 ⟨key, noted, hname, note_congr hfield h hfirst, hrest⟩

theorem noteAll_perm (h : members.Perm members')
    (hnote : fields.noteAll members found = .ok result) :
    fields.noteAll members' found = .ok result := by
  induction h generalizing found with
  | nil => exact hnote
  | cons member _ ih =>
    obtain ⟨key, noted, hname, hfirst, hrest⟩ := noteAll_cons.1 hnote
    exact noteAll_cons.2 ⟨key, noted, hname, hfirst, ih hrest⟩
  | swap member other members =>
    obtain ⟨key, noted, hname, hfirst, hrest⟩ := noteAll_cons.1 hnote
    obtain ⟨key', noted', hname', hsecond, hrest⟩ := noteAll_cons.1 hrest
    obtain ⟨swapped, hfirst, hsecond⟩ := note_swap hfirst hsecond
    exact noteAll_cons.2 ⟨key', swapped, hname', hfirst,
      noteAll_cons.2 ⟨key, noted', hname, hsecond, hrest⟩⟩
  | trans _ _ ih ih' => exact ih' (ih hnote)

/-- Members are noted only if the name of each of them is a text. -/
theorem named_of_noteAll (h : fields.noteAll members found = .ok result) {member : Member}
    (hmem : member ∈ members) : ∃ key, Quoted.toText? member.1 = some key := by
  induction members generalizing found with
  | nil => nomatch hmem
  | cons first members ih =>
    obtain ⟨key, noted, hname, -, hrest⟩ := noteAll_cons.1 h
    rcases List.mem_cons.1 hmem with rfl | hmem
    · exact ⟨key, hname⟩
    · exact ih hrest hmem

/-! ### What is noted for a field -/

/-- What was found for the field of the name, if there is one, is what the value reads as. -/
def Noted {ρ σ : Type} : Fields ρ σ → String → Json → σ → Prop
  | .done, _, _, () => True
  | .field name _ codec rest, key, json, (found, others) =>
    if key = name then ∃ value, codec.decode json = .ok value ∧ found = some value
    else rest.Noted key json others

/-- What the record has in the field of the name, if there is one, is what the value reads as. -/
def Gives {ρ σ : Type} : Fields ρ σ → String → Json → ρ → Prop
  | .done, _, _, () => True
  | .field name _ codec rest, key, json, (value, values) =>
    if key = name then codec.decode json = .ok value else rest.Gives key json values

section Field

variable {α : Type} {name : String} {default? : Option α} {codec : Codec α} {found : Option α}
  {others : σ}

theorem noted_field_self :
    (field name default? codec fields).Noted name json (found, others) ↔
      ∃ value, codec.decode json = .ok value ∧ found = some value := by
  rw [Noted, if_pos rfl]

theorem noted_field_of_ne (h : key ≠ name) :
    (field name default? codec fields).Noted key json (found, others) ↔
      fields.Noted key json others := by
  rw [Noted, if_neg h]

theorem complete_field {result : α × ρ} :
    (field name default? codec fields).complete (found, others) = .ok result ↔
      ∃ value values, found.or default? = some value ∧ fields.complete others = .ok values ∧
        result = (value, values) := by
  rw [complete]
  cases found.or default? with
  | none => simp
  | some value => cases fields.complete others <;> simp [eq_comm]

end Field

theorem noted_of_note {found result : σ} (h : fields.note key json found = .ok result) :
    fields.Noted key json result := by
  induction fields with
  | done => trivial
  | field name default? codec rest ih =>
    obtain ⟨value?, others⟩ := found
    by_cases hkey : key = name
    · subst hkey
      obtain ⟨-, value, hvalue, rfl⟩ := note_field_self.1 h
      exact noted_field_self.2 ⟨value, hvalue, rfl⟩
    · obtain ⟨noted, hnoted, rfl⟩ := (note_field_of_ne hkey).1 h
      exact (noted_field_of_ne hkey).2 (ih hnoted)

/-- What was noted stays, whatever is noted after it. -/
theorem Noted.note {found result : σ} (hfound : fields.Noted key json found)
    (h : fields.note key' json' found = .ok result) : fields.Noted key json result := by
  induction fields with
  | done => trivial
  | field name default? codec rest ih =>
    obtain ⟨value?, others⟩ := found
    by_cases hkey' : key' = name
    · subst hkey'
      obtain ⟨rfl, value', -, rfl⟩ := note_field_self.1 h
      by_cases hkey : key = key'
      · -- The field cannot be found already when it is noted now.
        subst hkey
        obtain ⟨value, -, hsome⟩ := noted_field_self.1 hfound
        cases hsome
      · exact (noted_field_of_ne hkey).2 ((noted_field_of_ne hkey).1 hfound)
    · obtain ⟨noted, hnoted, rfl⟩ := (note_field_of_ne hkey').1 h
      by_cases hkey : key = name
      · subst hkey
        exact noted_field_self.2 (noted_field_self.1 hfound)
      · exact (noted_field_of_ne hkey).2 (ih ((noted_field_of_ne hkey).1 hfound) hnoted)

theorem Noted.noteAll {members : List Member} {found result : σ}
    (hfound : fields.Noted key json found) (h : fields.noteAll members found = .ok result) :
    fields.Noted key json result := by
  induction members generalizing found with
  | nil =>
    cases h
    exact hfound
  | cons member members ih =>
    obtain ⟨key', noted, -, hnote, hrest⟩ := noteAll_cons.1 h
    exact ih (hfound.note hnote) hrest

theorem noted_of_mem {members : List Member} {raw : Bytes} {found result : σ}
    (hname : Quoted.toText? raw = some key) (hmem : (raw, json) ∈ members)
    (h : fields.noteAll members found = .ok result) : fields.Noted key json result := by
  induction members generalizing found with
  | nil => nomatch hmem
  | cons member members ih =>
    obtain ⟨key', noted, hname', hnote, hrest⟩ := noteAll_cons.1 h
    rcases List.mem_cons.1 hmem with rfl | hmem
    · cases hname.symm.trans hname'
      exact (noted_of_note hnote).noteAll hrest
    · exact ih hmem hrest

theorem Noted.complete {found : σ} {values : ρ} (hfound : fields.Noted key json found)
    (h : fields.complete found = .ok values) : fields.Gives key json values := by
  induction fields with
  | done => trivial
  | field name default? codec rest ih =>
    obtain ⟨value?, others⟩ := found
    obtain ⟨value, results, hvalue, hrest, rfl⟩ := complete_field.1 h
    rw [Gives]
    split
    · next hkey =>
      subst hkey
      obtain ⟨value', hdecode, rfl⟩ := noted_field_self.1 hfound
      cases hvalue
      exact hdecode
    · next hkey => exact ih ((noted_field_of_ne hkey).1 hfound) hrest

/-- What a record has in one of its fields was read. -/
theorem Gives.read {α : Type} {codec : Codec α} (hfield : fields.Has key codec) {values : ρ}
    (h : fields.Gives key json values) : ∃ value, codec.decode json = .ok value := by
  induction hfield with
  | here =>
    rw [Gives, if_pos rfl] at h
    exact ⟨_, h⟩
  | there hne _ ih =>
    rw [Gives, if_neg hne] at h
    exact ih h

end Fields

namespace Codec

variable {α ρ σ : Type}

theorem record_decode_iff {fields : Fields ρ σ} {out : α → ρ} {of : ρ → α}
    {members : List Member} {value : α} :
    (record fields out of).decode (.record members true) = .ok value ↔
      ∃ found values, fields.noteAll members fields.none = .ok found ∧
        fields.complete found = .ok values ∧ of values = value := by
  simp only [record]
  cases hnote : fields.noteAll members fields.none with
  | error e => simp
  | ok found => cases hcomplete : fields.complete found <;> simp [hcomplete]

theorem decodeItems_cons {codec : Codec α} {item : Json} {items : List Json} {values : List α} :
    codec.decodeItems (item :: items) = .ok values ↔
      ∃ value others, codec.decode item = .ok value ∧ codec.decodeItems items = .ok others ∧
        value :: others = values := by
  rw [decodeItems]
  cases codec.decode item with
  | error e => simp
  | ok value => cases codec.decodeItems items <;> simp

/-- All that an item of a list does is done by what it reads as. -/
theorem decodeItems_congr {codec : Codec α} {before after : List Json} {item item' : Json}
    {values : List α} (h : ∀ value, codec.decode item = .ok value → codec.decode item' = .ok value)
    (hitems : codec.decodeItems (before ++ item :: after) = .ok values) :
    codec.decodeItems (before ++ item' :: after) = .ok values := by
  induction before generalizing values with
  | nil =>
    obtain ⟨value, others, hvalue, hothers, rfl⟩ := decodeItems_cons.1 hitems
    exact decodeItems_cons.2 ⟨value, others, h value hvalue, hothers, rfl⟩
  | cons first before ih =>
    obtain ⟨value, others, hvalue, hothers, rfl⟩ := decodeItems_cons.1 hitems
    exact decodeItems_cons.2 ⟨value, others, hvalue, ih hothers, rfl⟩

/-- A list is read only if each of its items is. -/
theorem read_of_mem_items {codec : Codec α} {items : List Json} {values : List α}
    (h : codec.decodeItems items = .ok values) {item : Json} (hmem : item ∈ items) :
    ∃ value, codec.decode item = .ok value := by
  induction items generalizing values with
  | nil => nomatch hmem
  | cons first items ih =>
    obtain ⟨value, others, hvalue, hothers, -⟩ := decodeItems_cons.1 h
    rcases List.mem_cons.1 hmem with rfl | hmem
    · exact ⟨value, hvalue⟩
    · exact ih hothers hmem

theorem list_decode (codec : Codec α) (items : List Json) :
    codec.list.decode (.list items true) = codec.decodeItems items := by
  simp only [list]
  cases codec.decodeItems items <;> rfl

/-- Records are read alike when the same is found in their members. -/
theorem record_decode_congr {fields : Fields ρ σ} {out : α → ρ} {of : ρ → α}
    {members members' : List Member}
    (h : ∀ found, fields.noteAll members fields.none = .ok found ↔
      fields.noteAll members' fields.none = .ok found) (value : α) :
    (record fields out of).decode (.record members true) = .ok value ↔
      (record fields out of).decode (.record members' true) = .ok value := by
  simp only [record_decode_iff, h]

/-- A record that is read has in a field what the member of that name reads as. -/
theorem record_decode_gives {fields : Fields ρ σ} {out : α → ρ} {of : ρ → α}
    {members : List Member} {raw : Bytes} {key : String} {json : Json} {value : α}
    (h : (record fields out of).decode (.record members true) = .ok value)
    (hname : Quoted.toText? raw = some key) (hmem : (raw, json) ∈ members) :
    ∃ values, fields.Gives key json values ∧ of values = value := by
  obtain ⟨found, values, hnote, hcomplete, rfl⟩ := record_decode_iff.1 h
  exact ⟨values, (Fields.noted_of_mem hname hmem hnote).complete hcomplete, rfl⟩

/-- A text is read as its tree is. -/
theorem read_text (codec : Codec α) {json : Json} {bytes : Bytes} (h : json.IsText bytes) :
    codec.read bytes = codec.decode json := by
  simp only [read, Json.read_text h]
  cases codec.decode json <;> rfl

end Codec

end Bookshop
