import BotTypings.Json.Numeral
import BotTypings.Json.Quoting

/-! The tokens of a JSON text. A token that breaks ends the list, and so does a character that starts
no token: whoever comes to it reports it, and nothing behind it is ever looked at. -/
namespace BotTypings.Json

inductive Token where
  | openList
  | closeList
  | openRecord
  | closeRecord
  | comma
  | colon
  | null
  | bool (b : Bool)
  | number (n : Numeral)
  | text (content : Except Fault String)
  | brokenText (why : Break)
  | brokenScalar (why : Break)
  | stray (c : Char)

def isSpace (c : Char) : Bool := c == ' ' || c == '\t' || c == '\n' || c == '\r'

def scanWord (token : Token) : List Char → List Char → Token × List Char
  | [], rest => (token, rest)
  | _ :: _, [] => (.brokenScalar (.same .endOfValue), [])
  | w :: ws, c :: rest =>
    if w = c then scanWord token ws rest else (.brokenScalar (.same .expectedWord), [])

def digitsOf (cs : List Char) : List Char := cs.takeWhile Char.isDigit
def afterDigits (cs : List Char) : List Char := cs.dropWhile Char.isDigit

def missingDigit (rest : List Char) : Token × List Char :=
  (.brokenScalar ⟨if rest.isEmpty then .endOfValue else .invalidNumber, .invalidNumber⟩, [])

def exponentSign : List Char → Bool × List Char
  | '+' :: rest => (false, rest)
  | '-' :: rest => (true, rest)
  | rest => (false, rest)

def scanExponent (negative : Bool) (whole fraction : List Char) : List Char → Token × List Char
  | c :: rest =>
    if c = 'e' ∨ c = 'E' then
      let signed := exponentSign rest
      match digitsOf signed.2 with
      | [] => missingDigit signed.2
      | ds => (.number ⟨negative, whole, fraction, some (signed.1, ds)⟩, afterDigits signed.2)
    else (.number ⟨negative, whole, fraction, none⟩, c :: rest)
  | [] => (.number ⟨negative, whole, fraction, none⟩, [])

def scanFraction (negative : Bool) (whole : List Char) : List Char → Token × List Char
  | '.' :: rest =>
    match digitsOf rest with
    | [] => missingDigit rest
    | ds => scanExponent negative whole ds (afterDigits rest)
  | rest => scanExponent negative whole [] rest

/-- A number without its sign. A zero has no digit after it. -/
def scanNumber (negative : Bool) (cs : List Char) : Token × List Char :=
  match digitsOf cs with
  | [] => missingDigit cs
  | '0' :: _ :: _ => (.brokenScalar (.same .invalidNumber), [])
  | ds => scanFraction negative ds (afterDigits cs)

def scanQuoted (cs : List Char) : Token × List Char :=
  match scanText cs with
  | .closed pieces rest => (.text (contentOf pieces), rest)
  | .broken pieces why => (.brokenText (breakOf pieces why), [])

def scanToken (c : Char) (cs : List Char) : Token × List Char :=
  match c with
  | '[' => (.openList, cs)
  | ']' => (.closeList, cs)
  | '{' => (.openRecord, cs)
  | '}' => (.closeRecord, cs)
  | ',' => (.comma, cs)
  | ':' => (.colon, cs)
  | 'n' => scanWord .null ['u', 'l', 'l'] cs
  | 't' => scanWord (.bool true) ['r', 'u', 'e'] cs
  | 'f' => scanWord (.bool false) ['a', 'l', 's', 'e'] cs
  | '"' => scanQuoted cs
  | '-' => scanNumber true cs
  | c => if c.isDigit then scanNumber false (c :: cs) else (.stray c, [])

theorem afterDigits_length (cs : List Char) : (afterDigits cs).length ≤ cs.length :=
  (List.dropWhile_sublist _).length_le

theorem scanWord_length (token : Token) (word cs : List Char) :
    (scanWord token word cs).2.length ≤ cs.length := by
  induction word generalizing cs with
  | nil => simp [scanWord]
  | cons w ws ih =>
    cases cs with
    | nil => simp [scanWord]
    | cons c rest =>
      rw [scanWord]
      split
      · exact Nat.le_succ_of_le (ih rest)
      · simp

theorem exponentSign_length (cs : List Char) : (exponentSign cs).2.length ≤ cs.length := by
  unfold exponentSign
  split <;> simp

theorem scanExponent_length (negative : Bool) (whole fraction cs : List Char) :
    (scanExponent negative whole fraction cs).2.length ≤ cs.length := by
  cases cs with
  | nil => simp [scanExponent]
  | cons c rest =>
    have signShorter := exponentSign_length rest
    have digitsShorter := afterDigits_length (exponentSign rest).2
    rw [scanExponent]
    split
    · dsimp only
      split
      · simp [missingDigit]
      · simp
        omega
    · simp

theorem scanFraction_length (negative : Bool) (whole cs : List Char) :
    (scanFraction negative whole cs).2.length ≤ cs.length := by
  unfold scanFraction
  split
  · rename_i rest
    have digitsShorter := afterDigits_length rest
    split
    · simp [missingDigit]
    · have := scanExponent_length negative whole (digitsOf rest) (afterDigits rest)
      simp
      omega
  · exact scanExponent_length _ _ _ _

theorem scanNumber_length (negative : Bool) (cs : List Char) :
    (scanNumber negative cs).2.length ≤ (afterDigits cs).length := by
  unfold scanNumber
  split
  · simp [missingDigit]
  · simp
  · exact scanFraction_length _ _ _

theorem scanText_length {cs pieces rest} (h : scanText cs = .closed pieces rest) :
    rest.length < cs.length := by
  have cons_closed : ∀ {p : Piece} {s : Scanned} {ps r}, s.cons p = .closed ps r →
      ∃ qs, s = .closed qs r := by
    intro p s ps r h
    cases s <;> simp_all [Scanned.cons]
  fun_induction scanText cs generalizing pieces rest with
  | case1 => simp at h
  | case2 => simp at h
  | case3 a b c d left n _ ih =>
    obtain ⟨qs, hq⟩ := cons_closed h
    have := ih hq
    simp
    omega
  | case4 => simp at h
  | case5 => simp at h
  | case6 e left _ _ c _ ih =>
    obtain ⟨qs, hq⟩ := cons_closed h
    have := ih hq
    simp
    omega
  | case7 => simp at h
  | case8 left => simp_all
  | case9 => simp at h
  | case10 c left _ _ _ _ _ _ ih =>
    obtain ⟨qs, hq⟩ := cons_closed h
    have := ih hq
    simp
    omega

theorem scanQuoted_length (cs : List Char) : (scanQuoted cs).2.length ≤ cs.length := by
  unfold scanQuoted
  split
  · rename_i closed
    exact Nat.le_of_lt (scanText_length closed)
  · simp

theorem scanToken_length (c : Char) (cs : List Char) : (scanToken c cs).2.length ≤ cs.length := by
  unfold scanToken
  split <;> try exact Nat.le_refl _
  · exact scanWord_length _ _ _
  · exact scanWord_length _ _ _
  · exact scanWord_length _ _ _
  · exact scanQuoted_length _
  · exact Nat.le_trans (scanNumber_length _ _) (afterDigits_length _)
  · split
    · rename_i digit
      refine Nat.le_trans (scanNumber_length _ _) ?_
      have : afterDigits (c :: cs) = afterDigits cs := by simp [afterDigits, digit]
      rw [this]
      exact afterDigits_length _
    · simp

def tokens : List Char → List Token
  | [] => []
  | c :: cs =>
    if isSpace c then tokens cs
    else (scanToken c cs).1 :: tokens (scanToken c cs).2
  termination_by cs => cs.length
  decreasing_by
    · simp
    · exact Nat.lt_succ_of_le (scanToken_length c cs)

end BotTypings.Json
