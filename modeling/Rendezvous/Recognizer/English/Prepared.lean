import Rendezvous.Text.Lowercase
import Rendezvous.Text.WordCharacter

/-!
Contract: a phrase in the form in which it is reckoned.

Owns: `prepare`, which takes away the points behind words and the quotation marks
around them, and lowers and trims what is left.
-/

namespace Rendezvous.English

/-- Replace each character in view of its neighbours. -/
def replaceBetween (replace : Option Char → Char → Option Char → Text) :
    Option Char → Text → Text
  | _, [] => []
  | previous, c :: rest =>
      replace previous c rest.head? ++ replaceBetween replace (some c) rest

/-- Put something else for the point behind a word. -/
def replacePoints (replacement : Text) (text : Text) : Text :=
  replaceBetween (fun previous c next =>
    if c == '.' && previous.any Text.isWordCharacter && next.any Text.isBlank then replacement
    else [c]) none text

/-- Whether a character is a quotation mark. -/
def isMark (c : Char) : Bool :=
  c == '"' || c == '\x27'

/-- Put blanks for the quotation marks behind words, and then for those before words. -/
def blankMarks (text : Text) : Text :=
  let closed := replaceBetween (fun previous c next =>
    if isMark c && previous.any Text.isWordCharacter && next.all Text.isBlank then [' ']
    else [c]) none text
  replaceBetween (fun previous c next =>
    if isMark c && previous.all Text.isBlank && next.any Text.isWordCharacter then [' ']
    else [c]) none closed

/-- A phrase as it is reckoned: without points behind words and marks around them, in
lower case, and trimmed. -/
def prepare (text : Text) : Text :=
  (Text.lower (blankMarks (replacePoints [] text))).trim

end Rendezvous.English
