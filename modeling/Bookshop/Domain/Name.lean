import Bookshop.Domain.Label

/-!
# Names of hosts

A name is looked up by its ASCII form. A text is brought into that form by mapping its characters,
by putting the result in normal form, and by writing each word of it that is not ASCII as a code.
A name in which some word runs from right to left has to have a direction in each of its words.
-/

namespace Bookshop.Domain

def labels (text : List Char) : List (List Char) := pieces (· = '.') text

def joined (labels : List (List Char)) : List Char := ['.'].intercalate labels

def isPlain (text : List Char) : Bool :=
  text.all isAscii && (labels (text.map Char.toLower)).all (!isCode ·)

def words? (text : List Char) : Option (List (List Char)) := do
  let mapped ← meaning text
  let words ← (labels (Unicode.normalize mapped)).mapM word?
  if words.all isWord && (!words.any runsLeft || words.all hasOneDirection) then pure words
  else none

def toAscii? (text : List Char) : Option (List Char) :=
  if isPlain text then some (text.map Char.toLower)
  else do
    let words ← words? text
    pure (joined (words.map label))

example : toAscii? "LocalHost".toList = some "localhost".toList := by decide

end Bookshop.Domain
