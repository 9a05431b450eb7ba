import Bookshop.Proofs.Wire.RoundTrip

/-!
# Records with members left out

Of the fields of a record some may be left out, and the members that are there may stand in any
order. `Listed` says which values the members give to the fields, as a list in the order of the
fields; what the record reads as follows from that and from the defaults of the fields left out.
-/

namespace Bookshop

namespace Fields

/-- The members are those of the fields that have a value, in order, and each reads as its value. -/
inductive Listed : {ρ σ : Type} → Fields ρ σ → σ → List Member → Prop where
  | done : Listed .done () []
  | absent {α ρ σ : Type} {name : String} {default? : Option α} {codec : Codec α}
      {rest : Fields ρ σ} {found : σ} {members : List Member} (h : Listed rest found members) :
      Listed (field name default? codec rest) (.none, found) members
  | present {α ρ σ : Type} {name : String} {default? : Option α} {codec : Codec α}
      {rest : Fields ρ σ} {found : σ} {members : List Member} {raw : Bytes} {json : Json}
      {value : α}
      (hname : Quoted.toText? raw = some name) (hvalue : codec.decode json = .ok value)
      (h : Listed rest found members) :
      Listed (field name default? codec rest) (some value, found) ((raw, json) :: members)

variable {ρ σ : Type} {fields : Fields ρ σ} {found : σ} {members : List Member}

theorem Listed.name_mem (h : fields.Listed found members) :
    ∀ member ∈ members, ∃ name ∈ fields.names, Quoted.toText? member.1 = some name := by
  induction h with
  | done => exact fun _ hmember => nomatch hmember
  | absent _ ih =>
    intro member hmember
    obtain ⟨name, hname, htext⟩ := ih member hmember
    exact ⟨name, List.mem_cons_of_mem _ hname, htext⟩
  | @present _ _ _ name _ _ _ _ _ _ _ _ hname _ _ ih =>
    intro member hmember
    rcases List.mem_cons.1 hmember with rfl | hmember
    · exact ⟨name, List.mem_cons_self, hname⟩
    · obtain ⟨other, hother, htext⟩ := ih member hmember
      exact ⟨other, List.mem_cons_of_mem _ hother, htext⟩

/-- No member has a name that is no field's. -/
theorem Listed.name_ne (h : fields.Listed found members) {name : String}
    (hname : name ∉ fields.names) :
    ∀ member ∈ members, ∃ key, Quoted.toText? member.1 = some key ∧ key ≠ name := by
  intro member hmember
  obtain ⟨key, hkey, htext⟩ := h.name_mem member hmember
  exact ⟨key, htext, fun heq => hname (heq ▸ hkey)⟩

/-- Just the fields that have a value are found. -/
theorem Listed.noteAll (h : fields.Listed found members) (hnames : fields.names.Nodup) :
    fields.noteAll members fields.none = .ok found := by
  induction h with
  | done => rfl
  | absent hrest ih =>
    obtain ⟨hname, hnames⟩ := List.nodup_cons.1 hnames
    exact noteAll_field _ _ _ (hrest.name_ne hname) .none (ih hnames)
  | @present _ _ _ name _ _ rest _ _ _ _ value htext hvalue hrest ih =>
    obtain ⟨hname, hnames⟩ := List.nodup_cons.1 hnames
    refine noteAll_cons.2 ⟨name, (some value, rest.none), htext, ?_, ?_⟩
    · exact note_field_self.2 ⟨rfl, value, hvalue, rfl⟩
    · exact noteAll_field _ _ _ (hrest.name_ne hname) (some value) (ih hnames)

end Fields

/-- A record with members left out, in any order, reads as its values with the defaults. -/
theorem Codec.record_decode_listed {α ρ σ : Type} {fields : Fields ρ σ} {out : α → ρ} {of : ρ → α}
    {found : σ} {values : ρ} {value : α} {listed members : List Member}
    (h : fields.Listed found listed) (hnames : fields.names.Nodup) (hperm : members.Perm listed)
    (hvalue : fields.complete found = .ok values ∧ of values = value) :
    (Codec.record fields out of).decode (.record members true) = .ok value :=
  record_decode_iff.2
    ⟨found, values, Fields.noteAll_perm hperm.symm (h.noteAll hnames), hvalue⟩

end Bookshop
