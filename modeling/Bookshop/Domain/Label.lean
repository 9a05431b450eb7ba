import Bookshop.Domain.Mapping
import Bookshop.Domain.Punycode
import Bookshop.Unicode.Direction
import Bookshop.Unicode.Joining
import Bookshop.Unicode.Normal

/-!
# Labels

The name of a host consists of labels with points between them. A label stands for a word: a label
of ASCII characters for itself, unless it starts with the mark of a code, in which case it has to be
the code of a word with characters outside ASCII. Words that could be mistaken for others or cannot
be written next to each other are refused.
-/

namespace Bookshop.Domain

open Bookshop.Unicode

/-! ### Words -/

def isAscii (c : Char) : Bool := c.toNat < 0x80

def startsWithMark : List Char → Bool
  | [] => false
  | c :: _ => isMark c

/-- The sign that parts two letters that would be connected. -/
def nonJoiner : Char := '\u200c'

/-- The sign that connects two letters that would be apart. -/
def joiner : Char := '\u200d'

/-- Has the character that comes next the property, signs and marks between apart? -/
def isNext (property : Char → Bool) (cs : List Char) : Bool :=
  match cs.dropWhile isTransparent with
  | [] => false
  | c :: _ => property c

/-- Are the signs for connecting letters where they can be seen? Both are so after a sign that takes
    the vowel from a consonant, and the one for parting letters also between letters that would be
    connected. What comes before is given in reverse. -/
def joinersShow (before : List Char) : List Char → Bool
  | [] => true
  | c :: rest =>
    let afterVirama := match before with
      | [] => false
      | previous :: _ => combiningClass previous = viramaClass
    let parts := isNext joinsOnward before && isNext joinsBackward rest
    ((c ≠ nonJoiner && c ≠ joiner) || afterVirama || (c = nonJoiner && parts)) &&
      joinersShow (c :: before) rest

def maxWord : Nat := 1000

def isWord (word : List Char) : Bool :=
  !startsWithMark word && joinersShow [] word && (word.all isAscii || word.length ≤ maxWord)

/-! ### Directions -/

def runsLeft (word : List Char) : Bool :=
  word.any fun c => direction c = .right || direction c = .arabicNumber

/-- Is the word read in one direction? It has to start with a letter of that direction, end with one
    or with a number, and have no letter of the other direction. Words from the left have no numbers
    of the other kind, and those from the right have numbers of one kind only. -/
def hasOneDirection : List Char → Bool
  | [] => true
  | first :: rest =>
    let others := ((rest.map direction).reverse.dropWhile (· = .mark)).reverse
    match direction first with
    | .left =>
      others.getLast?.all (fun d => d = .left || d = .europeanNumber) &&
        others.all fun d => d ≠ .right && d ≠ .arabicNumber
    | .right =>
      others.getLast?.all (fun d => d = .right || d = .europeanNumber || d = .arabicNumber) &&
        others.all (· ≠ .left) &&
        !(others.contains .europeanNumber && others.contains .arabicNumber)
    | _ => false

/-! ### Codes -/

def codeMark : List Char := "xn--".toList

def isCode (label : List Char) : Bool := codeMark.isPrefixOf label

def maxCode : Nat := 2000

/-- The word that a label stands for. A code has to be that of a word in normal form that is not
    ASCII and has only characters that stand for themselves. -/
def word? (label : List Char) : Option (List Char) :=
  if isCode label then do
    let code := label.drop codeMark.length
    let word ← if maxCode < code.length then none else Punycode.decode? code
    if word.all isAscii || !word.all isValid || normalize word ≠ word then none else pure word
  else some label

def label (word : List Char) : List Char :=
  if word.all isAscii then word else codeMark ++ Punycode.encode word

end Bookshop.Domain
