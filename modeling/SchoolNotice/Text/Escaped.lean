/-!
Text made safe for HTML: six characters are written as references, and no others. `decode` reads the
references back.
-/

namespace SchoolNotice.Text.Escaped

def encodeChar (char : Char) : List Char :=
  if char = '&' then ['&', 'a', 'm', 'p', ';']
  else if char = '<' then ['&', 'l', 't', ';']
  else if char = '>' then ['&', 'g', 't', ';']
  else if char = '\x22' then ['&', 'q', 'u', 'o', 't', ';']
  else if char = '\x27' then ['&', '#', 'x', '2', '7', ';']
  else if char = '/' then ['&', '#', 'x', '2', 'F', ';']
  else [char]

def encode (text : List Char) : List Char := text.flatMap encodeChar

/-- Reads the references back; any other character stands for itself. -/
def decode : List Char → List Char
  | [] => []
  | '&' :: 'a' :: 'm' :: 'p' :: ';' :: rest => '&' :: decode rest
  | '&' :: 'l' :: 't' :: ';' :: rest => '<' :: decode rest
  | '&' :: 'g' :: 't' :: ';' :: rest => '>' :: decode rest
  | '&' :: 'q' :: 'u' :: 'o' :: 't' :: ';' :: rest => '\x22' :: decode rest
  | '&' :: '#' :: 'x' :: '2' :: '7' :: ';' :: rest => '\x27' :: decode rest
  | '&' :: '#' :: 'x' :: '2' :: 'F' :: ';' :: rest => '/' :: decode rest
  | char :: rest => char :: decode rest

/-- Nothing is lost: what was written is read back. -/
theorem decode_encode (text : List Char) : decode (encode text) = text := by
  induction text with
  | nil => rfl
  | cons char rest induction =>
      have split : encode (char :: rest) = encodeChar char ++ encode rest := rfl
      rw [split]
      by_cases amp : char = '&'
      · simp [encodeChar, amp, decode, induction]
      by_cases less : char = '<'
      · simp [encodeChar, less, decode, induction]
      by_cases greater : char = '>'
      · simp [encodeChar, greater, decode, induction]
      by_cases double : char = '\x22'
      · simp [encodeChar, double, decode, induction]
      by_cases single : char = '\x27'
      · simp [encodeChar, single, decode, induction]
      by_cases slash : char = '/'
      · simp [encodeChar, slash, decode, induction]
      simp [encodeChar, amp, less, greater, double, single, slash, decode, induction]

end SchoolNotice.Text.Escaped
