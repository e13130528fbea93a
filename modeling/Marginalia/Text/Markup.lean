import Marginalia.Text.Basic

/-!
# Markup

Text that is shown on a screen may hold tags between square brackets.  A text that only looks as if
it had tags is escaped: each of them is announced by a backslash, and the backslashes before it are
doubled, so that they are shown as they are.
-/

namespace Marginalia

namespace Text

/-- Whether a tag may begin with a character. -/
def opensTag (char : Char) : Bool :=
  ('a' ≤ char && char ≤ 'z') || char = '#' || char = '/' || char = '@'

/-- Whether what follows an opening bracket is a tag: it begins as one, and is closed before another
bracket is opened. -/
def isTag : Text → Bool
  | [] => false
  | char :: rest =>
      opensTag char && rest.find? (fun char => char = '[' || char = ']') = some ']'

/-- Escape the tags of a text, before which the given number of backslashes stands. -/
def escapeTags (backslashes : Nat) : Text → Text
  | [] => List.replicate backslashes '\\'
  | char :: rest =>
      if char = '\\' then escapeTags (backslashes + 1) rest
      else if char = '[' && isTag rest then
        List.replicate (2 * backslashes + 1) '\\' ++ '[' :: escapeTags 0 rest
      else List.replicate backslashes '\\' ++ char :: escapeTags 0 rest

/-- A text that is shown as it is.  A single backslash at its end is doubled, since a tag may be
written after it. -/
def escapeMarkup (text : Text) : Text :=
  let escaped := escapeTags 0 text
  match escaped.reverse with
  | '\\' :: '\\' :: _ => escaped
  | '\\' :: _ => escaped ++ ['\\']
  | _ => escaped

/-- A text between the tags of a style. -/
def styled (style text : Text) : Text :=
  '[' :: style ++ ']' :: text ++ '[' :: '/' :: style ++ [']']

end Text

end Marginalia
