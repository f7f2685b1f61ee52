import BotTypings.Yaml.Tokens

/-! A YAML text as a tree that ends where the text breaks: what stands there is `broken`, and nothing
follows it. A reader that comes to a wrong type earlier in the text reports that instead. -/
namespace BotTypings.Yaml

structure Scalar where
  text : String
  form : Form
  tag : Option String
  deriving DecidableEq, Repr

inductive Node where
  | scalar (anchor : Option Nat) (s : Scalar)
  | list (anchor : Option Nat) (tag : Option String) (items : List Node)
  | record (anchor : Option Nat) (tag : Option String) (members : List (Node × Node))
  | alias (anchor : Nat)
  | broken
  deriving Inhabited

inductive Break where
  | malformed
  | unknownAnchor
  deriving DecidableEq, Repr

/-- What comes behind a document: nothing, something that belongs to no or another document, or the
place where the text breaks. -/
inductive Ending where
  | complete
  | more
  | broken (cause : Break)
  deriving DecidableEq, Repr

structure Document where
  root : Node
  ending : Ending

def Node.empty : Node := .scalar none ⟨"", .plain, none⟩

structure Feed where
  tokens : List Token
  anchors : List (String × Nat)

abbrev Assembled (α : Type) := α × Except Break Feed

def brokenAt {α : Type} (x : α) : Assembled α := (x, .error .malformed)

def Feed.drop (f : Feed) : Feed := { f with tokens := f.tokens.drop 1 }

def Feed.next? (f : Feed) : Option Token := f.tokens.head?

/-- Numbers a name by the count of names before it. A name that comes again is numbered anew, without
a further name being counted. -/
def Feed.addAnchor (f : Feed) (name : String) : Feed × Nat :=
  let number := f.anchors.length
  let others := f.anchors.filter (·.1 != name)
  ({ f with anchors := (name, number) :: others }, number)

structure Marks where
  anchor : Option String
  tag : Option (String × String)

def Marks.isEmpty (m : Marks) : Bool := m.anchor.isNone && m.tag.isNone

/-- The marks before a node, at most one of each kind in any order. -/
def takeMarks : List Token → Marks × List Token
  | .anchor name :: .tag handle rest :: ts => (⟨some name, some (handle, rest)⟩, ts)
  | .tag handle rest :: .anchor name :: ts => (⟨some name, some (handle, rest)⟩, ts)
  | .anchor name :: ts => (⟨some name, none⟩, ts)
  | .tag handle rest :: ts => (⟨none, some (handle, rest)⟩, ts)
  | ts => (⟨none, none⟩, ts)

abbrev Handles := List (String × String)

def standardHandles : Handles := [("!", "!"), ("!!", "tag:yaml.org,2002:")]

def fullTag (handles : Handles) : Option (String × String) → Option (Option String)
  | none => some none
  | some (handle, rest) =>
    if handle = "" then some (some rest)
    else (handles.find? (·.1 == handle)).map fun (_, lead) => some (lead ++ rest)

def meaningfulTag (tag : Option String) : Option String := tag.filter (· != "!")

def orEmpty (before : List Token) (read : Feed → Assembled Node) (f : Feed) : Assembled Node :=
  match f.next? with
  | none => brokenAt .broken
  | some t => if t ∈ before then (.empty, .ok f) else read f

mutual

/-- One node. In a block there may be blocks, and as the value of a key a list that is not indented. -/
def node (handles : Handles) (inBlock flush : Bool) : Nat → Feed → Assembled Node
  | 0, _ => brokenAt .broken
  | fuel + 1, f =>
    match f.next? with
    | some (.alias name) =>
      match f.anchors.find? (·.1 == name) with
      | some (_, number) => (.alias number, .ok f.drop)
      | none => (.broken, .error .unknownAnchor)
    | _ =>
      let (marks, ts) := takeMarks f.tokens
      match ts, fullTag handles marks.tag with
      | [], _ | _, none => brokenAt .broken
      | t :: _, some tag =>
        let (f, anchor) := match marks.anchor with
          | none => ({ f with tokens := ts }, none)
          | some name =>
            let (f, number) := { f with tokens := ts : Feed }.addAnchor name
            (f, some number)
        let list (r : Assembled (List Node)) : Assembled Node := (.list anchor tag r.1, r.2)
        let record (r : Assembled (List (Node × Node))) : Assembled Node := (.record anchor tag r.1, r.2)
        match t with
        | .scalar text form =>
          (.scalar anchor ⟨text, form, meaningfulTag tag⟩, .ok f.drop)
        | .openList => list (flowItems handles true fuel f.drop)
        | .openRecord => record (flowMembers handles true fuel f.drop)
        | t =>
          if flush && t == .item then list (flushItems handles fuel f)
          else if inBlock && t == .openBlockList then list (blockItems handles fuel f.drop)
          else if inBlock && t == .openBlockRecord then record (blockMembers handles fuel f.drop)
          else if marks.isEmpty then brokenAt .broken
          else (.scalar anchor ⟨"", .plain, tag⟩, .ok f)

def blockItems (handles : Handles) : Nat → Feed → Assembled (List Node)
  | 0, _ => brokenAt [.broken]
  | fuel + 1, f =>
    match f.next? with
    | some .closeBlock => ([], .ok f.drop)
    | some .item =>
      match orEmpty [.item, .closeBlock] (node handles true false fuel) f.drop with
      | (n, .error b) => ([n], .error b)
      | (n, .ok f) =>
        let (ns, f) := blockItems handles fuel f
        (n :: ns, f)
    | _ => brokenAt [.broken]

def flushItems (handles : Handles) : Nat → Feed → Assembled (List Node)
  | 0, _ => brokenAt [.broken]
  | fuel + 1, f =>
    match f.next? with
    | some .item =>
      match orEmpty [.item, .key, .value, .closeBlock] (node handles true false fuel) f.drop with
      | (n, .error b) => ([n], .error b)
      | (n, .ok f) =>
        let (ns, f) := flushItems handles fuel f
        (n :: ns, f)
    | some _ => ([], .ok f)
    | none => brokenAt [.broken]

def blockMembers (handles : Handles) : Nat → Feed → Assembled (List (Node × Node))
  | 0, _ => brokenAt [(.broken, .broken)]
  | fuel + 1, f =>
    match f.next? with
    | some .closeBlock => ([], .ok f.drop)
    | some .key =>
      match orEmpty [.key, .value, .closeBlock] (node handles true true fuel) f.drop with
      | (key, .error b) => ([(key, .broken)], .error b)
      | (key, .ok f) =>
        let value : Assembled Node := match f.next? with
          | some .value => orEmpty [.key, .value, .closeBlock] (node handles true true fuel) f.drop
          | some _ => (.empty, .ok f)
          | none => brokenAt .broken
        match value with
        | (n, .error b) => ([(key, n)], .error b)
        | (n, .ok f) =>
          let (ns, f) := blockMembers handles fuel f
          ((key, n) :: ns, f)
    | _ => brokenAt [(.broken, .broken)]

/-- The items between brackets, to the closing one. A key among them makes a record of its own. -/
def flowItems (handles : Handles) (first : Bool) : Nat → Feed → Assembled (List Node)
  | 0, _ => brokenAt [.broken]
  | fuel + 1, f =>
    match f.next? with
    | some .closeList => ([], .ok f.drop)
    | some t =>
      if !first && t != .comma then brokenAt [.broken]
      else
        let f := if first then f else f.drop
        match f.next? with
        | some .closeList => ([], .ok f.drop)
        | none => brokenAt [.broken]
        | some t =>
          let item := if t == .key then flowPair handles fuel f.drop else node handles false false fuel f
          match item with
          | (n, .error b) => ([n], .error b)
          | (n, .ok f) =>
            let (ns, f) := flowItems handles false fuel f
            (n :: ns, f)
    | none => brokenAt [.broken]

/-- A record of one member, its key mark read. A token that shows the key to be left out is passed
over. -/
def flowPair (handles : Handles) : Nat → Feed → Assembled Node
  | 0, _ => brokenAt .broken
  | fuel + 1, f =>
    let key : Assembled Node := match f.next? with
      | none => brokenAt .broken
      | some t =>
        if t ∈ [Token.value, .comma, .closeList] then (.empty, .ok f.drop)
        else node handles false false fuel f
    match key with
    | (key, .error b) => (.record none none [(key, .broken)], .error b)
    | (key, .ok f) =>
      let value : Assembled Node := match f.next? with
        | some .value => orEmpty [.comma, .closeList] (node handles false false fuel) f.drop
        | some _ => (.empty, .ok f)
        | none => brokenAt .broken
      (.record none none [(key, value.1)], value.2)

def flowMembers (handles : Handles) (first : Bool) : Nat → Feed → Assembled (List (Node × Node))
  | 0, _ => brokenAt [(.broken, .broken)]
  | fuel + 1, f =>
    match f.next? with
    | some .closeRecord => ([], .ok f.drop)
    | some t =>
      if !first && t != .comma then brokenAt [(.broken, .broken)]
      else
        let f := if first then f else f.drop
        match f.next? with
        | some .closeRecord => ([], .ok f.drop)
        | none => brokenAt [(.broken, .broken)]
        | some t =>
          let (marked, key) : Bool × Assembled Node :=
            if t == .key then
              (true, orEmpty [.value, .comma, .closeRecord] (node handles false false fuel) f.drop)
            else (false, node handles false false fuel f)
          match key with
          | (key, .error b) => ([(key, .broken)], .error b)
          | (key, .ok f) =>
            let value : Assembled Node := match f.next? with
              | none => brokenAt .broken
              | some t =>
                if marked && t == .value then
                  orEmpty [.comma, .closeRecord] (node handles false false fuel) f.drop
                else (.empty, .ok f)
            match value with
            | (n, .error b) => ([(key, n)], .error b)
            | (n, .ok f) =>
              let (ns, f) := flowMembers handles false fuel f
              ((key, n) :: ns, f)
    | none => brokenAt [(.broken, .broken)]

end

/-- The directives before a document: one version at most, no handle twice. -/
def takeDirectives (versioned : Bool) (handles : Handles) : List Token → Option (Handles × List Token)
  | .version major minor :: ts =>
    if versioned || major != 1 || (minor != 1 && minor != 2) then none
    else takeDirectives true handles ts
  | .handle name lead :: ts =>
    if handles.any (·.1 == name) then none
    else takeDirectives versioned (handles ++ [(name, lead)]) ts
  | ts => some (handles, ts)

def endsEmpty : List Token → Bool
  | .version .. :: _ | .handle .. :: _ | .documentStart :: _ | .documentEnd :: _ | .endOfText :: _ =>
    true
  | _ => false

/-- The ending of a document with its tokens read. Marks of its end may follow. -/
def endingOf : List Token → Ending
  | [] => .broken .malformed
  | ts => if (ts.dropWhile (· == .documentEnd)).head? == some .endOfText then .complete else .more

def fuelFor (ts : List Token) : Nat := 4 * (ts.length + 1)

def Document.ofTokens (ts : List Token) : Document :=
  let finish (r : Assembled Node) : Document :=
    ⟨r.1, match r.2 with
      | .ok f => endingOf f.tokens
      | .error b => .broken b⟩
  let read (handles : Handles) (ts : List Token) : Assembled Node :=
    node (handles ++ standardHandles) true false (fuelFor ts) ⟨ts, []⟩
  match ts with
  | .endOfText :: _ => ⟨.empty, .complete⟩
  | .version .. :: _ | .handle .. :: _ | .documentStart :: _ =>
    match takeDirectives false [] ts with
    | some (handles, .documentStart :: ts) =>
      if endsEmpty ts then finish (.empty, .ok ⟨ts, []⟩) else finish (read handles ts)
    | _ => ⟨.broken, .broken .malformed⟩
  | ts => finish (read [] ts)

def Document.ofText (text : String) : Document := .ofTokens (tokens text.toList)

mutual

def Node.isWhole : Node → Bool
  | .scalar .. | .alias _ => true
  | .list _ _ items => areWhole items
  | .record _ _ members => pairsAreWhole members
  | .broken => false

def areWhole : List Node → Bool
  | [] => true
  | n :: ns => n.isWhole && areWhole ns

def pairsAreWhole : List (Node × Node) → Bool
  | [] => true
  | (key, n) :: ns => key.isWhole && n.isWhole && pairsAreWhole ns

end

mutual

def Node.anchored : Node → List (Nat × Node)
  | .scalar anchor s => anchor.toList.map (·, .scalar anchor s)
  | .list anchor tag items => anchor.toList.map (·, .list anchor tag items) ++ anchoredIn items
  | .record anchor tag members =>
    anchor.toList.map (·, .record anchor tag members) ++ anchoredInPairs members
  | .alias _ | .broken => []

def anchoredIn : List Node → List (Nat × Node)
  | [] => []
  | n :: ns => n.anchored ++ anchoredIn ns

def anchoredInPairs : List (Node × Node) → List (Nat × Node)
  | [] => []
  | (key, n) :: ns => key.anchored ++ n.anchored ++ anchoredInPairs ns

end

/-- The node that an alias stands for: the last one of its number. -/
def Document.target (d : Document) (number : Nat) : Node :=
  ((d.root.anchored.filter (·.1 == number)).getLast?.map (·.2)).getD .broken

def Document.cause (d : Document) : Break :=
  match d.ending with
  | .broken cause => cause
  | .complete | .more => .malformed

def Document.resolve (d : Document) : Node → Node
  | .alias number => d.target number
  | n => n

end BotTypings.Yaml
