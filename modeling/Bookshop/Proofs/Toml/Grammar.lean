import Bookshop.Proofs.Toml.Text
import Bookshop.Toml.Document

/-!
# Documents of texts

A document that holds nothing but texts has lines with entries and lines with headers. Blanks may
stand around each part of a line, lines may end in a comment, and lines with nothing more than that
may stand anywhere; a line ends in either of two ways, and the last one need not end at all. The
relations tell which texts are documents of which entries, and nothing about how they are read. They
relate a text to what is left of it after a part. What is written is one of these documents.
-/

namespace Bookshop.Toml

/-! ### Lines -/

/-- Blanks and tabs, in any number. -/
def Blanks (cs : List Char) : Prop := ∀ c ∈ cs, isSpace c = true

theorem blanks_nil : Blanks [] := nofun

theorem blanks_single : Blanks [' '] := by
  intro c hc
  obtain rfl := List.mem_singleton.1 hc
  rfl

/-- Nothing, or a comment up to the end of its line. -/
inductive CommentOrNone : List Char → Prop where
  | none : CommentOrNone []
  | comment {cs : List Char} (h : ∀ c ∈ cs, isPlain c = true) : CommentOrNone ('#' :: cs)

/-- The text begins with a line end, before the rest, or it has come to its end. -/
inductive Newline : List Char → List Char → Prop where
  | feed (rest : List Char) : Newline ('\n' :: rest) rest
  | returnFeed (rest : List Char) : Newline ('\r' :: '\n' :: rest) rest
  | last : Newline [] []

/-- Up to the rest there is nothing more than the end of a line, with blanks and a comment. -/
inductive LineEnd : List Char → List Char → Prop where
  | intro {blanks comment tail rest : List Char} (hblanks : Blanks blanks)
      (hcomment : CommentOrNone comment) (htail : Newline tail rest) :
      LineEnd (blanks ++ (comment ++ tail)) rest

/-- The name may be written without quotes. -/
structure IsBareName (name : String) : Prop where
  ne : name.toList ≠ []
  bare : ∀ c ∈ name.toList, isBare c = true

instance (name : String) : Decidable (IsBareName name) :=
  decidable_of_iff (name.toList ≠ [] ∧ name.toList.all isBare = true)
    ⟨fun h => ⟨h.1, List.all_eq_true.1 h.2⟩, fun h => ⟨h.ne, List.all_eq_true.2 h.bare⟩⟩

/-- The text begins with a line for the name with the text. -/
inductive EntrySpelledAs (name value : String) : List Char → List Char → Prop where
  | intro {before middle after written line rest : List Char} (hname : IsBareName name)
      (hbefore : Blanks before) (hmiddle : Blanks middle) (hafter : Blanks after)
      (hvalue : TextSpelledAs value written) (hline : LineEnd line rest) :
      EntrySpelledAs name value
        (before ++ (name.toList ++ (middle ++ '=' :: (after ++ (written ++ line))))) rest

/-- The text begins with a line for the header of the name. -/
inductive HeaderSpelledAs (name : String) : List Char → List Char → Prop where
  | intro {before middle after line rest : List Char} (hname : IsBareName name)
      (hbefore : Blanks before) (hmiddle : Blanks middle) (hafter : Blanks after)
      (hline : LineEnd line rest) :
      HeaderSpelledAs name
        (before ++ '[' :: (middle ++ (name.toList ++ (after ++ ']' :: line)))) rest

/-! ### Documents -/

/-- The text begins with lines for the entries. -/
inductive EntriesSpelledAs : List (String × String) → List Char → List Char → Prop where
  | done (rest : List Char) : EntriesSpelledAs [] rest rest
  | blank {entries : List (String × String)} {cs middle rest : List Char}
      (hline : LineEnd cs middle) (hrest : EntriesSpelledAs entries middle rest) :
      EntriesSpelledAs entries cs rest
  | entry {name value : String} {entries : List (String × String)} {cs middle rest : List Char}
      (hentry : EntrySpelledAs name value cs middle)
      (hrest : EntriesSpelledAs entries middle rest) :
      EntriesSpelledAs ((name, value) :: entries) cs rest

/-- The text is made of tables, each with a header and its entries. -/
inductive TablesSpelledAs : List (String × List (String × String)) → List Char → Prop where
  | done : TablesSpelledAs [] []
  | table {name : String} {entries : List (String × String)}
      {tables : List (String × List (String × String))} {cs middle rest : List Char}
      (hheader : HeaderSpelledAs name cs middle) (hentries : EntriesSpelledAs entries middle rest)
      (hrest : TablesSpelledAs tables rest) :
      TablesSpelledAs ((name, entries) :: tables) cs

/-- The text is a document of the entries and of the tables, in the order that they are given in. -/
def IsDocument (entries : List (String × String)) (tables : List (String × List (String × String)))
    (text : String) : Prop :=
  ∃ rest, EntriesSpelledAs entries text.toList rest ∧ TablesSpelledAs tables rest

/-! ### What is written -/

theorem lineEnd_feed (rest : List Char) : LineEnd ('\n' :: rest) rest :=
  .intro blanks_nil .none (.feed rest)

theorem entriesSpelledAs_writeEntries {entries : List (String × String)}
    (h : ∀ entry ∈ entries, IsBareName entry.1) (rest : List Char) :
    EntriesSpelledAs entries (writeEntries entries ++ rest) rest := by
  induction entries with
  | nil => exact .done rest
  | cons entry entries ih =>
    have hentry : EntrySpelledAs entry.1 entry.2 _ (writeEntries entries ++ rest) :=
      .intro (h entry List.mem_cons_self) blanks_nil blanks_single blanks_single
        (textSpelledAs_writeText entry.2) (lineEnd_feed _)
    have hrest := ih fun other hother => h other (List.mem_cons_of_mem _ hother)
    have hwritten := EntriesSpelledAs.entry hentry hrest
    simpa [writeEntries] using hwritten

theorem tablesSpelledAs_writeTable {name : String} {entries : List (String × String)}
    {tables : List (String × List (String × String))} {rest : List Char} (hname : IsBareName name)
    (hne : entries ≠ []) (h : ∀ entry ∈ entries, IsBareName entry.1)
    (hrest : TablesSpelledAs tables rest) :
    TablesSpelledAs ((name, entries) :: tables) (writeTable name entries ++ rest) := by
  have hheader : HeaderSpelledAs name _ (writeEntries entries ++ rest) :=
    .intro hname blanks_nil blanks_nil blanks_nil (lineEnd_feed _)
  have hwritten :=
    TablesSpelledAs.table hheader (entriesSpelledAs_writeEntries h rest) hrest
  have hfilled : entries.isEmpty = false := List.isEmpty_eq_false_iff.2 hne
  simpa [writeTable, hfilled] using hwritten

end Bookshop.Toml
