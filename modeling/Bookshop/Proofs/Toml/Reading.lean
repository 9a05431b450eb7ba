import Mathlib.Data.List.DropRight
import Bookshop.Proofs.Toml.Grammar

/-!
# Reading documents of texts

A document of entries and tables with different names is read as the table of all of them, in the
order of the document. Each line is one statement; what it adds to the table that is being filled is
the same in every table, so it is said once (`Fills`), for the document itself and for the table of
the latest header. Statements are read one after another (`Reads`) with more of them allowed than
there are characters left.
-/

namespace Bookshop.Toml

variable {cs rest : List Char} {name value : String}

/-! ### Parts of a line -/

theorem dropSpace_blanks {blanks : List Char} (h : Blanks blanks) (cs : List Char) :
    dropSpace (blanks ++ cs) = dropSpace cs :=
  List.dropWhile_append_of_pos h

theorem dropSpace_cons {c : Char} (h : isSpace c = false) (cs : List Char) :
    dropSpace (c :: cs) = c :: cs := by
  rw [dropSpace, List.dropWhile_cons_of_neg (by simp [h])]

/-- What is left after blanks and a comment. -/
theorem LineEnd.exists_tail (h : LineEnd cs rest) : ∃ comment tail, CommentOrNone comment ∧
    Newline tail rest ∧ dropSpace cs = comment ++ tail ∧ dropComment (comment ++ tail) = tail := by
  obtain ⟨hblanks, hcomment, htail⟩ := h
  refine ⟨_, _, hcomment, htail, ?_, ?_⟩
  · rw [dropSpace_blanks hblanks]
    cases hcomment with
    | comment => exact dropSpace_cons rfl _
    | none =>
      cases htail with
      | last => rfl
      | _ => exact dropSpace_cons rfl _
  · cases hcomment with
    | none => cases htail <;> rfl
    | comment hplain =>
      rw [List.cons_append, dropComment, List.dropWhile_append_of_pos hplain]
      cases htail with
      | last => rfl
      | _ => exact List.dropWhile_cons_of_neg (by decide)

theorem endLine?_of_lineEnd (h : LineEnd cs rest) : endLine? cs = some rest := by
  obtain ⟨comment, tail, -, htail, hspace, hcomment⟩ := h.exists_tail
  rw [endLine?, hspace, hcomment]
  cases htail <;> rfl

/-- What is left of the end of a line after its blanks is the end of a line, too. -/
theorem LineEnd.dropSpace (h : LineEnd cs rest) : LineEnd (Toml.dropSpace cs) rest := by
  obtain ⟨comment, tail, hcomment, htail, hspace, -⟩ := h.exists_tail
  rw [hspace]
  exact .intro blanks_nil hcomment htail

theorem Newline.length_le (h : Newline cs rest) : rest.length ≤ cs.length := by
  cases h <;> simp only [List.length_cons, Nat.le_refl] <;> omega

theorem LineEnd.length_le (h : LineEnd cs rest) : rest.length ≤ cs.length := by
  obtain ⟨-, -, htail⟩ := h
  have := htail.length_le
  simp only [List.length_append]
  omega

theorem Blanks.head_ne {blanks : List Char} (h : Blanks blanks) {c : Char} (hc : isSpace c = false)
    (hrest : rest.head? ≠ some c) : (blanks ++ rest).head? ≠ some c := by
  cases blanks with
  | nil => exact hrest
  | cons blank blanks =>
    intro hhead
    obtain rfl : blank = c := by simpa using hhead
    exact Bool.false_ne_true (hc.symm.trans (h blank List.mem_cons_self))

/-- The end of a line begins with none but a few characters. -/
theorem LineEnd.head_ne (h : LineEnd cs rest) {c : Char} (hspace : isSpace c = false)
    (hcomment : c ≠ '#') (hfeed : c ≠ '\n') (hreturn : c ≠ '\r') : cs.head? ≠ some c := by
  obtain ⟨hblanks, hmark, htail⟩ := h
  apply hblanks.head_ne hspace
  intro hhead
  cases hmark with
  | comment => exact hcomment (by simpa using hhead.symm)
  | none =>
    cases htail with
    | feed => exact hfeed (by simpa using hhead.symm)
    | returnFeed => exact hreturn (by simpa using hhead.symm)
    | last => cases hhead

/-! ### Entries and headers -/

/-- A bare name begins with none of the characters that begin something else. -/
theorem IsBareName.exists_head (h : IsBareName name) :
    ∃ c others, name.toList = c :: others ∧ isBare c = true := by
  obtain ⟨c, others, hname⟩ := List.exists_cons_of_ne_nil h.ne
  exact ⟨c, others, hname, h.bare c (hname ▸ List.mem_cons_self)⟩

theorem isBare_of_isSpace {c : Char} (h : isSpace c = true) : isBare c = false := by
  rw [isSpace, Bool.or_eq_true, decide_eq_true_eq, decide_eq_true_eq] at h
  rcases h with rfl | rfl <;> decide

theorem isSpace_of_isBare {c : Char} (h : isBare c = true) : isSpace c = false := by
  rw [← Bool.not_eq_true]
  intro hspace
  exact Bool.false_ne_true ((isBare_of_isSpace hspace).symm.trans h)

/-- A bare name is read on to a character that is none of its own. -/
theorem name?_of_bare (hname : IsBareName name)
    (hrest : ∀ c, rest.head? = some c → isBare c = false) :
    name? (name.toList ++ rest) = some (name, rest) := by
  have hquoted : quoted? (name.toList ++ rest) = none := by
    obtain ⟨c, others, hhead, hbare⟩ := hname.exists_head
    rw [hhead, List.cons_append, quoted?.eq_def]
    split
    · next heq =>
      obtain ⟨rfl, -⟩ := List.cons.inj heq
      exact absurd hbare (by decide)
    · next heq =>
      obtain ⟨rfl, -⟩ := List.cons.inj heq
      exact absurd hbare (by decide)
    · rfl
  have hstop : rest.takeWhile isBare = [] ∧ rest.dropWhile isBare = rest := by
    cases rest with
    | nil => exact ⟨rfl, rfl⟩
    | cons c others => simp [hrest c rfl]
  have htake : (name.toList ++ rest).takeWhile isBare = name.toList := by
    rw [List.takeWhile_append_of_pos hname.bare, hstop.1, List.append_nil]
  have hdrop : (name.toList ++ rest).dropWhile isBare = rest := by
    rw [List.dropWhile_append_of_pos hname.bare, hstop.2]
  have hfilled : name.toList.isEmpty = false := List.isEmpty_eq_false_iff.2 hname.ne
  simp only [name?, hquoted, htake, hdrop, hfilled, Bool.false_eq_true, if_false,
    String.ofList_toList]

/-- A key of one name, with blanks around it, is read on to what ends it. -/
theorem key?_of_bare {before after : List Char} (hname : IsBareName name) (hbefore : Blanks before)
    (hafter : Blanks after) (stop : Char) (hbare : isBare stop = false)
    (hspace : isSpace stop = false) (hdot : stop ≠ '.') (rest : List Char) :
    key? (before ++ (name.toList ++ (after ++ stop :: rest))) =
      some (([], name), stop :: rest) := by
  have hhead : dropSpace (name.toList ++ (after ++ stop :: rest)) =
      name.toList ++ (after ++ stop :: rest) := by
    obtain ⟨c, others, hhead, hc⟩ := hname.exists_head
    rw [hhead, List.cons_append, dropSpace_cons (isSpace_of_isBare hc)]
  have hstop : ∀ c, (after ++ stop :: rest).head? = some c → isBare c = false := by
    intro c hc
    cases after with
    | nil =>
      obtain rfl : stop = c := by simpa using hc
      exact hbare
    | cons blank blanks =>
      obtain rfl : blank = c := by simpa using hc
      exact isBare_of_isSpace (hafter blank List.mem_cons_self)
  have hnames : names? maxDepth (before ++ (name.toList ++ (after ++ stop :: rest))) =
      some ([name], stop :: rest) := by
    rw [maxDepth, names?.eq_def]
    simp only [dropSpace_blanks hbefore, hhead, name?_of_bare hname hstop, dropSpace_blanks hafter,
      dropSpace_cons hspace]
    split
    · next heq => exact absurd (List.cons.inj heq).1 hdot
    · rfl
  simp only [key?, hnames]
  rfl

/-- A text is a value, and its reading ends where it does. -/
theorem value?_of_spelled (hvalue : TextSpelledAs value cs) (hrest : rest.head? ≠ some '"') :
    value? (cs ++ rest) = some (.text value, rest) := by
  have htext := text?_of_spelled hvalue hrest
  obtain ⟨inside, -, rfl⟩ := hvalue
  have hsimple : value? ('"' :: inside ++ ['"'] ++ rest) =
      simple? ('"' :: inside ++ ['"'] ++ rest) := rfl
  rw [hsimple, simple?, htext]
  rfl

theorem TextSpelledAs.dropSpace_eq (h : TextSpelledAs value cs) (rest : List Char) :
    dropSpace (cs ++ rest) = cs ++ rest := by
  obtain ⟨inside, -, rfl⟩ := h
  exact dropSpace_cons rfl _

/-- A name, an equals sign and a text are read as an entry. -/
theorem entry?_of_spelled {middle after written line : List Char} (hname : IsBareName name)
    (hmiddle : Blanks middle) (hafter : Blanks after) (hvalue : TextSpelledAs value written)
    (hline : line.head? ≠ some '"') :
    entry? value? (name.toList ++ (middle ++ '=' :: (after ++ (written ++ line)))) =
      some (([], name, .text value), dropSpace line) := by
  have hkey := key?_of_bare hname blanks_nil hmiddle '=' rfl rfl (by decide)
    (after ++ (written ++ line))
  rw [List.nil_append] at hkey
  simp only [hkey, entry?, dropSpace_blanks hafter, hvalue.dropSpace_eq,
    value?_of_spelled hvalue hline]

/-! ### Statements -/

variable {draft : Draft}

theorem finishLine_of_lineEnd (h : LineEnd cs rest) (draft? : Option Draft) :
    finishLine draft? cs = draft?.map (·, rest) := by
  cases draft? <;> simp only [finishLine, endLine?_of_lineEnd h, Option.map_none, Option.map_some]

/-- What begins a statement is an entry unless it is a bracket, a comment or a line end. -/
theorem statement?_of_ne {c : Char} (h : c ≠ '[') (draft : Draft) (cs : List Char) :
    statement? draft (c :: cs) =
      match dropComment (c :: cs) with
      | [] => some (draft, [])
      | d :: others =>
        match newline? (d :: others) with
        | some cs => some (draft, cs)
        | none =>
          match entry? value? (c :: cs) with
          | some ((path, name, value), cs) =>
            finishLine
              ((insertBelow draft.header path name value draft.entries).map (⟨·, draft.header⟩)) cs
          | none => none := by
  unfold statement?
  split
  · next heq => exact absurd (List.cons.inj heq).1 h
  · next heq => exact absurd (List.cons.inj heq).1 h
  · rfl

/-- A line with nothing in it changes nothing. -/
theorem statement?_blank (h : LineEnd cs rest) (draft : Draft) :
    statement? draft (dropSpace cs) = some (draft, rest) := by
  obtain ⟨comment, tail, hcomment, htail, hspace, hdrop⟩ := h.exists_tail
  rw [hspace]
  cases hcomment with
  | none => cases htail <;> rfl
  | comment hplain =>
    rw [List.cons_append] at hdrop ⊢
    rw [statement?_of_ne (by decide), hdrop]
    cases htail <;> rfl

/-- A line for a name adds its text to the table that is being filled. -/
theorem statement?_entry (h : EntrySpelledAs name value cs rest) (draft : Draft) :
    statement? draft (dropSpace cs) =
      (insertBelow draft.header [] name (.text value) draft.entries).map
        fun entries => (⟨entries, draft.header⟩, rest) := by
  obtain ⟨hname, hbefore, hmiddle, hafter, hvalue, hline⟩ := h
  have hentry := entry?_of_spelled hname hmiddle hafter hvalue
    (hline.head_ne rfl (by decide) (by decide) (by decide))
  obtain ⟨c, others, hhead, hbare⟩ := hname.exists_head
  have hne {d : Char} (hd : isBare d = false) : c ≠ d := by
    rintro rfl
    exact Bool.false_ne_true (hd.symm.trans hbare)
  have hcomment (cs : List Char) : dropComment (c :: cs) = c :: cs := by
    rw [dropComment]
    intro others heq
    exact hne rfl (List.cons.inj heq).1
  have hnewline (cs : List Char) : newline? (c :: cs) = none := by
    rw [newline?]
    · intro others heq
      exact hne rfl (List.cons.inj heq).1
    · intro others heq
      exact hne rfl (List.cons.inj heq).1
  rw [hhead, List.cons_append] at hentry
  rw [dropSpace_blanks hbefore, hhead, List.cons_append, dropSpace_cons (isSpace_of_isBare hbare),
    statement?_of_ne (hne rfl)]
  simp only [hcomment, hnewline, hentry, finishLine_of_lineEnd hline.dropSpace, Option.map_map]
  rfl

/-- A line for a header opens its table, which is filled from then on. -/
theorem statement?_header (h : HeaderSpelledAs name cs rest) (draft : Draft) :
    statement? draft (dropSpace cs) =
      (openTable [] name draft.entries).map fun entries => (⟨entries, [name]⟩, rest) := by
  obtain @⟨before, middle, after, line, _, hname, hbefore, hmiddle, hafter, hline⟩ := h
  have hkey := key?_of_bare hname hmiddle hafter ']' rfl rfl (by decide) line
  rw [dropSpace_blanks hbefore, dropSpace_cons rfl, statement?]
  · simp only [hkey, finishLine_of_lineEnd hline, Option.map_map]
    rfl
  · intro others heq
    obtain ⟨c, tail, hhead, hbare⟩ := hname.exists_head
    cases middle with
    | nil =>
      rw [hhead] at heq
      obtain ⟨rfl, -⟩ := List.cons.inj heq
      exact absurd hbare (by decide)
    | cons blank blanks =>
      obtain ⟨rfl, -⟩ := List.cons.inj heq
      exact absurd (hmiddle '[' List.mem_cons_self) (by decide)

/-! ### Tables that grow -/

/-- The table of the texts, each under its name. -/
def ofTexts (entries : List (String × String)) : Entries :=
  entries.map fun (name, value) => (name, .text value)

def ofTables (tables : List (String × List (String × String))) : Entries :=
  tables.map fun (name, entries) => (name, .table .header (ofTexts entries))

theorem map_fst_ofTexts (entries : List (String × String)) :
    (ofTexts entries).map Prod.fst = entries.map Prod.fst := by
  rw [ofTexts, List.map_map]
  rfl

theorem map_fst_ofTables (tables : List (String × List (String × String))) :
    (ofTables tables).map Prod.fst = tables.map Prod.fst := by
  rw [ofTables, List.map_map]
  rfl

theorem find?_eq_none_iff {entries : Entries} :
    find? name entries = none ↔ name ∉ entries.map Prod.fst := by
  induction entries with
  | nil => simp [find?]
  | cons entry entries ih =>
    rw [find?, List.map_cons, List.mem_cons, not_or]
    by_cases h : entry.1 = name
    · simp [h]
    · rw [if_neg h, ih, and_iff_right (Ne.symm h)]

theorem find?_append (name : String) (entries entries' : Entries) :
    find? name (entries ++ entries') = (find? name entries).or (find? name entries') := by
  induction entries with
  | nil => rfl
  | cons entry entries ih =>
    rw [List.cons_append, find?, find?]
    split
    · rfl
    · exact ih

theorem put_append_of_absent {before : Entries} (h : name ∉ before.map Prod.fst) (value : Toml)
    (entries : Entries) :
    put name value (before ++ entries) = before ++ put name value entries := by
  induction before with
  | nil => rfl
  | cons entry before ih =>
    rw [List.map_cons, List.mem_cons, not_or] at h
    rw [List.cons_append, put, if_neg (Ne.symm h.1), ih h.2, List.cons_append]

/-- A new name comes to stand at the end. -/
theorem put_of_absent {entries : Entries} (h : name ∉ entries.map Prod.fst) (value : Toml) :
    put name value entries = entries ++ [(name, value)] := by
  have hput := put_append_of_absent h value []
  rwa [List.append_nil] at hput

theorem insert_of_absent {inner : Entries} (h : name ∉ inner.map Prod.fst) (value : Toml)
    (origin : TableOrigin) :
    insert [] name value origin inner = some (inner ++ [(name, value)]) := by
  simp only [insert, changeAt, List.isEmpty_nil, Bool.true_or, if_true, find?_eq_none_iff.2 h,
    put_of_absent h value]

theorem openTable_of_absent {entries : Entries} (h : name ∉ entries.map Prod.fst) :
    openTable [] name entries = some (entries ++ [(name, .table .header [])]) := by
  simp only [openTable, changeAt, find?_eq_none_iff.2 h, put_of_absent h]

/-- The place in a draft where entries go: a new name is added to those that are there. -/
def Fills (place : Entries → Draft) : Prop :=
  ∀ (inner : Entries) (name : String) (value : Toml), name ∉ inner.map Prod.fst →
    (insertBelow (place inner).header [] name value (place inner).entries).map
      (fun entries => (⟨entries, (place inner).header⟩ : Draft)) =
        some (place (inner ++ [(name, value)]))

/-- Before the first header entries go to the document. -/
theorem fills_document : Fills fun inner => ⟨inner, []⟩ := by
  intro inner name value h
  simp only [insertBelow, changeAt, insert_of_absent h, Option.map_some]

/-- After a header they go to its table. -/
theorem fills_table {before : Entries} {header : String} (h : header ∉ before.map Prod.fst) :
    Fills fun inner => ⟨before ++ [(header, .table .header inner)], [header]⟩ := by
  intro inner name value hname
  have hfind : find? header (before ++ [(header, .table .header inner)]) =
      some (.table .header inner) := by
    rw [find?_append, find?_eq_none_iff.2 h, Option.none_or, find?, if_pos rfl]
  have henter : mayEnter .implied .header = true := rfl
  simp only [insertBelow, changeAt, hfind, henter, if_true, insert_of_absent hname,
    Option.map_some, put_append_of_absent h, put]

/-! ### Runs of statements -/

theorem not_mem_of_nodup {names others : List String} (h : (names ++ name :: others).Nodup) :
    name ∉ names :=
  fun hmem => (List.nodup_append.1 h).2.2 name hmem name List.mem_cons_self rfl

/-- Reading on from the draft is reading the rest on from the next one. -/
def Reads (draft : Draft) (cs : List Char) (next : Draft) (rest : List Char) : Prop :=
  ∀ most, cs.length ≤ most → ∃ fewer, rest.length ≤ fewer ∧
    statements? most draft cs = statements? fewer next rest

theorem Reads.refl (draft : Draft) (cs : List Char) : Reads draft cs draft cs :=
  fun most hmost => ⟨most, hmost, rfl⟩

theorem Reads.trans {next last : Draft} {middle : List Char} (h : Reads draft cs next middle)
    (h' : Reads next middle last rest) : Reads draft cs last rest := by
  intro most hmost
  obtain ⟨fewer, hfewer, hfirst⟩ := h most hmost
  obtain ⟨least, hleast, hsecond⟩ := h' fewer hfewer
  exact ⟨least, hleast, hfirst.trans hsecond⟩

/-- A statement that takes something off the text is one step. -/
theorem reads_statement {next : Draft} (h : statement? draft (dropSpace cs) = some (next, rest))
    (hlt : dropSpace cs ≠ [] → rest.length < cs.length) : Reads draft cs next rest := by
  intro most hmost
  cases hspace : dropSpace cs with
  | nil =>
    rw [hspace] at h
    cases h
    refine ⟨0, Nat.zero_le _, ?_⟩
    rw [statements?.eq_def, hspace]
    rfl
  | cons c others =>
    have hshorter := hlt (by simp [hspace])
    obtain ⟨fewer, rfl⟩ : ∃ fewer, most = fewer + 1 := ⟨most - 1, by omega⟩
    refine ⟨fewer, by omega, ?_⟩
    rw [statements?.eq_def]
    rw [hspace] at h ⊢
    simp only [h]

theorem reads_blank (h : LineEnd cs rest) (draft : Draft) : Reads draft cs draft rest := by
  apply reads_statement (statement?_blank h draft)
  intro hne
  obtain ⟨comment, tail, hcomment, htail, hspace, -⟩ := h.exists_tail
  have hlength : (dropSpace cs).length ≤ cs.length := List.length_dropWhile_le _ _
  have hfilled := List.length_pos_iff.2 hne
  rw [hspace, List.length_append] at hlength hfilled
  cases htail <;> simp only [List.length_cons, List.length_nil] at hlength hfilled ⊢ <;> omega

theorem EntrySpelledAs.length_lt (h : EntrySpelledAs name value cs rest) :
    rest.length < cs.length := by
  obtain ⟨_, _, _, _, _, hline⟩ := h
  have := hline.length_le
  simp only [List.length_append, List.length_cons]
  omega

theorem HeaderSpelledAs.length_lt (h : HeaderSpelledAs name cs rest) :
    rest.length < cs.length := by
  obtain ⟨_, _, _, _, hline⟩ := h
  have := hline.length_le
  simp only [List.length_append, List.length_cons]
  omega

/-- Lines for entries with new names fill the table that is being filled. -/
theorem reads_entries {entries : List (String × String)} (h : EntriesSpelledAs entries cs rest)
    {place : Entries → Draft} (hplace : Fills place) {inner : Entries}
    (hnames : (inner.map Prod.fst ++ entries.map Prod.fst).Nodup) :
    Reads (place inner) cs (place (inner ++ ofTexts entries)) rest := by
  induction h generalizing inner with
  | done rest =>
    rw [ofTexts, List.map_nil, List.append_nil]
    exact .refl _ _
  | blank hline _ ih => exact (reads_blank hline _).trans (ih hnames)
  | @entry name value entries cs middle rest hentry _ ih =>
    have hname : name ∉ inner.map Prod.fst := not_mem_of_nodup hnames
    have hfirst : Reads (place inner) cs (place (inner ++ [(name, .text value)])) middle := by
      apply reads_statement
      · rw [statement?_entry hentry]
        have hfill := hplace inner name (.text value) hname
        rw [Option.map_eq_some_iff] at hfill ⊢
        obtain ⟨filled, hinsert, hfilled⟩ := hfill
        exact ⟨filled, hinsert, by rw [hfilled]⟩
      · exact fun _ => hentry.length_lt
    have hgrown : inner ++ ofTexts ((name, value) :: entries) =
        inner ++ [(name, .text value)] ++ ofTexts entries := by
      rw [List.append_assoc]
      rfl
    rw [hgrown]
    refine hfirst.trans (ih ?_)
    rw [List.map_append, List.append_assoc]
    exact hnames

/-- Tables with new names are added in order. -/
theorem reads_tables {tables : List (String × List (String × String))}
    (h : TablesSpelledAs tables cs) {draft : Draft}
    (hnames : (draft.entries.map Prod.fst ++ tables.map Prod.fst).Nodup)
    (hentries : ∀ table ∈ tables, (table.2.map Prod.fst).Nodup) :
    ∃ header, Reads draft cs ⟨draft.entries ++ ofTables tables, header⟩ [] := by
  induction h generalizing draft with
  | done =>
    refine ⟨draft.header, ?_⟩
    rw [ofTables, List.map_nil, List.append_nil]
    exact .refl _ _
  | @table name entries tables cs middle rest hheader hbody _ ih =>
    have hname : name ∉ draft.entries.map Prod.fst := not_mem_of_nodup hnames
    have hopen : Reads draft cs ⟨draft.entries ++ [(name, .table .header [])], [name]⟩ middle := by
      apply reads_statement
      · rw [statement?_header hheader, openTable_of_absent hname]
        rfl
      · exact fun _ => hheader.length_lt
    have hfill : Reads ⟨draft.entries ++ [(name, .table .header [])], [name]⟩ middle
        ⟨draft.entries ++ [(name, .table .header (ofTexts entries))], [name]⟩ rest :=
      reads_entries hbody (fills_table hname) (hentries _ List.mem_cons_self)
    have hrest : ((draft.entries ++ [(name, Toml.table .header (ofTexts entries))]).map Prod.fst ++
        tables.map Prod.fst).Nodup := by
      rw [List.map_append, List.append_assoc]
      exact hnames
    obtain ⟨header, hothers⟩ := @ih ⟨_, [name]⟩ hrest
      fun other hother => hentries other (List.mem_cons_of_mem _ hother)
    have hgrown : draft.entries ++ ofTables ((name, entries) :: tables) =
        draft.entries ++ [(name, .table .header (ofTexts entries))] ++ ofTables tables := by
      rw [List.append_assoc]
      rfl
    rw [hgrown]
    exact ⟨header, hopen.trans (hfill.trans hothers)⟩

/-! ### Documents -/

theorem EntriesSpelledAs.head_ne_mark {entries : List (String × String)}
    (h : EntriesSpelledAs entries cs rest) (hrest : rest.head? ≠ some '\ufeff') :
    cs.head? ≠ some '\ufeff' := by
  cases h with
  | done => exact hrest
  | blank hline => exact hline.head_ne rfl (by decide) (by decide) (by decide)
  | entry hentry =>
    obtain ⟨hname, hbefore, -, -, -, -⟩ := hentry
    apply hbefore.head_ne rfl
    obtain ⟨c, others, hhead, hbare⟩ := hname.exists_head
    rw [hhead, List.cons_append, List.head?_cons]
    rintro ⟨⟩
    exact absurd hbare (by decide)

theorem TablesSpelledAs.head_ne_mark {tables : List (String × List (String × String))}
    (h : TablesSpelledAs tables cs) : cs.head? ≠ some '\ufeff' := by
  cases h with
  | done => nofun
  | table hheader =>
    obtain ⟨-, hbefore, -, -, -⟩ := hheader
    apply hbefore.head_ne rfl
    rw [List.head?_cons]
    decide

/-- **Reading a document.** When no name is given twice in one place, what is read are the entries
    and the tables of the document, and nothing else. -/
theorem read?_of_isDocument {entries : List (String × String)}
    {tables : List (String × List (String × String))} {text : String}
    (h : IsDocument entries tables text)
    (hnames : (entries.map Prod.fst ++ tables.map Prod.fst).Nodup)
    (htables : ∀ table ∈ tables, (table.2.map Prod.fst).Nodup) :
    read? text = some (.table .header (ofTexts entries ++ ofTables tables)) := by
  obtain ⟨rest, hentries, hrest⟩ := h
  have hmark : dropByteOrderMark text.toList = text.toList := by
    rw [dropByteOrderMark]
    intro others heq
    exact hentries.head_ne_mark hrest.head_ne_mark (by rw [heq]; rfl)
  have hfirst : Reads {} text.toList ⟨ofTexts entries, []⟩ rest :=
    reads_entries hentries fills_document (List.nodup_append.1 hnames).1
  have hdrafted : ((ofTexts entries).map Prod.fst ++ tables.map Prod.fst).Nodup := by
    rw [map_fst_ofTexts]
    exact hnames
  obtain ⟨header, hsecond⟩ := @reads_tables _ _ hrest ⟨ofTexts entries, []⟩ hdrafted htables
  obtain ⟨fewer, -, hread⟩ := (hfirst.trans hsecond) _ (Nat.le_refl _)
  have hdone (draft : Draft) : statements? fewer draft [] = some draft := by
    rw [statements?.eq_def]
    rfl
  simp only [read?, hmark, hread, hdone, Option.map_some]

end Bookshop.Toml
