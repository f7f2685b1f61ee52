import BotTypings.Json.Token

/-! A JSON text as a tree that ends where the text breaks. The tree is the same for every reader: a
break is a leaf or the ending of a list or record, and each reader that comes to it in reading order
says what it is to him. What a reader never comes to does not matter to him, so a wrong type early in
a text is reported before a fault further on. -/
namespace BotTypings.Json

/-- How a list ends behind its last item: closed, at the end of the text, at a character that is no
separator, or at a comma with nothing but the closing bracket after it. -/
inductive ListEnd where
  | closed
  | unclosed
  | unseparated
  | dangling
  deriving DecidableEq, Repr

def ListEnd.break? : ListEnd → Option Break
  | closed => none
  | unclosed => some (.same .endOfList)
  | unseparated => some (.same .expectedListSeparator)
  | dangling => some ⟨.trailingComma, .expectedValue⟩

abbrev Key := Except Fault String

inductive Node where
  | null
  | bool (b : Bool)
  | number (n : Numeral)
  | text (content : Except Fault String)
  | list (items : List Node) (ending : ListEnd)
  | record (members : List (Key × Node)) (ending : Option Break)
  | broken (why : Break)

structure Document where
  root : Node
  trailing : Bool

/-- A container under construction, its finished members last first. -/
inductive Frame where
  | list (done : List Node)
  | record (done : List (Key × Node)) (key : Key)

inductive Phase where
  | value
  | after (n : Node)
  | item (done : List Node) (first : Bool)
  | key (done : List (Key × Node)) (first : Bool)
  | colon (done : List (Key × Node)) (key : Key)

def plug : List Frame → Node → Node
  | [], n => n
  | .list done :: stack, n => plug stack (.list (done.reverse ++ [n]) .unclosed)
  | .record done key :: stack, n =>
    plug stack (.record (done.reverse ++ [(key, n)]) (some (.same .endOfRecord)))

def Token.opening : Token → Phase
  | openList => .item [] true
  | openRecord => .key [] true
  | null => .after .null
  | bool b => .after (.bool b)
  | number n => .after (.number n)
  | text content => .after (.text content)
  | brokenText why | brokenScalar why => .after (.broken why)
  | closeList | closeRecord | comma | colon | stray _ => .after (.broken (.same .expectedValue))

def broken (stack : List Frame) (n : Node) : Document := ⟨plug stack n, false⟩

def assemble : Phase → List Frame → List Token → Document
  | .value, stack, [] => broken stack (.broken (.same .endOfValue))
  | .value, stack, t :: ts => assemble t.opening stack ts
  | .after n, [], ts => ⟨n, !ts.isEmpty⟩
  | .after n, .list done :: stack, [] =>
    broken stack (.list (n :: done).reverse .unclosed)
  | .after n, .list done :: stack, t :: ts =>
    match t with
    | .closeList => assemble (.after (.list (n :: done).reverse .closed)) stack ts
    | .comma => assemble (.item (n :: done) false) stack ts
    | _ => broken stack (.list (n :: done).reverse .unseparated)
  | .after n, .record done key :: stack, [] =>
    broken stack (.record ((key, n) :: done).reverse (some (.same .endOfRecord)))
  | .after n, .record done key :: stack, t :: ts =>
    match t with
    | .closeRecord => assemble (.after (.record ((key, n) :: done).reverse none)) stack ts
    | .comma => assemble (.key ((key, n) :: done) false) stack ts
    | _ => broken stack (.record ((key, n) :: done).reverse (some (.same .expectedRecordSeparator)))
  | .item done first, stack, [] =>
    if first then broken stack (.list done.reverse .unclosed)
    else broken (.list done :: stack) (.broken (.same .endOfValue))
  | .item done first, stack, t :: ts =>
    match t with
    | .closeList =>
      if first then assemble (.after (.list done.reverse .closed)) stack ts
      else broken stack (.list done.reverse .dangling)
    | t => assemble t.opening (.list done :: stack) ts
  | .key done first, stack, [] =>
    broken stack (.record done.reverse
      (some (if first then .same .endOfRecord else ⟨.endOfValue, .endOfRecord⟩)))
  | .key done first, stack, t :: ts =>
    match t with
    | .text key => assemble (.colon done key) stack ts
    | .brokenText why => broken stack (.record done.reverse (some why))
    | .closeRecord =>
      if first then assemble (.after (.record done.reverse none)) stack ts
      else broken stack (.record done.reverse (some ⟨.trailingComma, .keyNotText⟩))
    | _ => broken stack (.record done.reverse (some (.same .keyNotText)))
  | .colon done key, stack, [] =>
    broken (.record done key :: stack) (.broken (.same .endOfRecord))
  | .colon done key, stack, t :: ts =>
    match t with
    | .colon => assemble .value (.record done key :: stack) ts
    | _ => broken (.record done key :: stack) (.broken (.same .expectedColon))

def Document.ofText (text : String) : Document := assemble .value [] (tokens text.toList)

end BotTypings.Json
