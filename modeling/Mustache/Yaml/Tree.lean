import Mustache.Yaml.Token

/-!
# Trees of YAML texts

The tokens of a text make up one document: a scalar, a sequence or a mapping.  A
value that is left out is an empty plain scalar.
-/

namespace Mustache.Yaml

inductive Tree where
  | scalar (text : String) (plain : Bool)
  | sequence (items : List Tree)
  | mapping (entries : List (Tree × Tree))
deriving Inhabited

namespace Tree

def missing : Tree := .scalar "" true

mutual

/-- How many collections are nested in one another. -/
def depth : Tree → Nat
  | .scalar _ _ => 0
  | .sequence items => itemsDepth items + 1
  | .mapping entries => entriesDepth entries + 1

def itemsDepth : List Tree → Nat
  | [] => 0
  | t :: rest => max (depth t) (itemsDepth rest)

def entriesDepth : List (Tree × Tree) → Nat
  | [] => 0
  | (key, value) :: rest => max (max (depth key) (depth value)) (entriesDepth rest)

end

end Tree

mutual

/-- Reads one node.  `block` admits block collections and `indentless` a sequence
whose items stand in the column of the key they belong to. -/
def readNode (fuel : Nat) (block indentless : Bool) (ts : List Token) :
    Option (Tree × List Token) :=
  match fuel, ts with
  | 0, _ => none
  | _, .scalar text plain :: rest => some (.scalar text plain, rest)
  | fuel + 1, .blockEntry :: rest =>
      if indentless then
        (readIndentless fuel (.blockEntry :: rest)).map fun (items, rest) =>
          (.sequence items, rest)
      else none
  | fuel + 1, .sequenceStart :: rest =>
      if block then (readItems fuel rest).map fun (items, rest) => (.sequence items, rest)
      else none
  | fuel + 1, .mappingStart :: rest =>
      if block then (readEntries fuel rest).map fun (entries, rest) => (.mapping entries, rest)
      else none
  | fuel + 1, .flowSequenceStart :: rest =>
      (readFlowItems fuel true rest).map fun (items, rest) => (.sequence items, rest)
  | fuel + 1, .flowMappingStart :: rest =>
      (readFlowEntries fuel true rest).map fun (entries, rest) => (.mapping entries, rest)
  | _, _ => none

/-- Reads a node unless one of the tokens comes next that leave it out. -/
def readOptional (fuel : Nat) (block indentless : Bool) (isEnd : Token → Bool)
    (ts : List Token) : Option (Tree × List Token) :=
  match fuel, ts with
  | 0, _ => none
  | _, [] => some (.missing, [])
  | fuel + 1, t :: rest =>
      if isEnd t then some (.missing, t :: rest)
      else readNode fuel block indentless (t :: rest)

def readItems (fuel : Nat) (ts : List Token) : Option (List Tree × List Token) :=
  match fuel, ts with
  | fuel + 1, .blockEntry :: rest => do
      let isEnd : Token → Bool
        | .blockEntry | .blockEnd => true
        | _ => false
      let (item, rest) ← readOptional fuel true false isEnd rest
      let (items, rest) ← readItems fuel rest
      return (item :: items, rest)
  | _, .blockEnd :: rest => some ([], rest)
  | _, _ => none

def readIndentless (fuel : Nat) (ts : List Token) : Option (List Tree × List Token) :=
  match fuel, ts with
  | 0, _ => none
  | fuel + 1, .blockEntry :: rest => do
      let isEnd : Token → Bool
        | .blockEntry | .key | .value | .blockEnd => true
        | _ => false
      let (item, rest) ← readOptional fuel true false isEnd rest
      let (items, rest) ← readIndentless fuel rest
      return (item :: items, rest)
  | _, ts => some ([], ts)

def readEntries (fuel : Nat) (ts : List Token) : Option (List (Tree × Tree) × List Token) :=
  match fuel, ts with
  | fuel + 1, .key :: rest => do
      let isEnd : Token → Bool
        | .key | .value | .blockEnd => true
        | _ => false
      let (key, rest) ← readOptional fuel true true isEnd rest
      let (value, rest) ←
        match rest with
        | .value :: rest => readOptional fuel true true isEnd rest
        | rest => some (.missing, rest)
      let (entries, rest) ← readEntries fuel rest
      return ((key, value) :: entries, rest)
  | _, .blockEnd :: rest => some ([], rest)
  | _, _ => none

/-- Reads the items of a bracketed sequence, the first of which has no comma
before it.  An item may be a single entry without braces.  If its key is missing,
the token in place of the key is passed over. -/
def readFlowItems (fuel : Nat) (first : Bool) (ts : List Token) :
    Option (List Tree × List Token) :=
  match fuel, ts with
  | _, .flowSequenceEnd :: rest => some ([], rest)
  | fuel + 1, ts => do
      let rest ←
        match first, ts with
        | true, ts => some ts
        | false, .flowEntry :: rest => some rest
        | false, _ => none
      match rest with
      | .flowSequenceEnd :: rest => return ([], rest)
      | .key :: rest => do
          let (key, rest) ←
            match rest with
            | .value :: rest | .flowEntry :: rest | .flowSequenceEnd :: rest =>
                some (.missing, rest)
            | rest => readNode fuel false false rest
          let isEnd : Token → Bool
            | .flowEntry | .flowSequenceEnd => true
            | _ => false
          let (value, rest) ←
            match rest with
            | .value :: rest => readOptional fuel false false isEnd rest
            | rest => some (.missing, rest)
          let (items, rest) ← readFlowItems fuel false rest
          return (.mapping [(key, value)] :: items, rest)
      | rest => do
          let (item, rest) ← readNode fuel false false rest
          let (items, rest) ← readFlowItems fuel false rest
          return (item :: items, rest)
  | 0, _ => none

def readFlowEntries (fuel : Nat) (first : Bool) (ts : List Token) :
    Option (List (Tree × Tree) × List Token) :=
  match fuel, ts with
  | _, .flowMappingEnd :: rest => some ([], rest)
  | fuel + 1, ts => do
      let rest ←
        match first, ts with
        | true, ts => some ts
        | false, .flowEntry :: rest => some rest
        | false, _ => none
      let isEnd : Token → Bool
        | .value | .flowEntry | .flowMappingEnd => true
        | _ => false
      match rest with
      | .flowMappingEnd :: rest => return ([], rest)
      | .key :: rest => do
          let (key, rest) ← readOptional fuel false false isEnd rest
          let (value, rest) ←
            match rest with
            | .value :: rest => readOptional fuel false false isEnd rest
            | rest => some (.missing, rest)
          let (entries, rest) ← readFlowEntries fuel false rest
          return ((key, value) :: entries, rest)
      | rest => do
          let (key, rest) ← readNode fuel false false rest
          let (entries, rest) ← readFlowEntries fuel false rest
          return ((key, .missing) :: entries, rest)
  | 0, _ => none

end

/-- The one document of a text; a text without any is a missing scalar. -/
def parse? (text : String) : Option Tree := do
  let tokens ← tokens? text.toList
  let fuel := 4 * tokens.length + 4
  let content (ts : List Token) : Option (Tree × List Token) :=
    match ts with
    | [] => some (.missing, [])
    | .documentStart :: rest =>
        let isEnd : Token → Bool
          | .documentStart | .documentEnd => true
          | _ => false
        readOptional fuel true false isEnd rest
    | ts => readNode fuel true false ts
  let (tree, rest) ← content tokens
  let isDocumentEnd : Token → Bool
    | .documentEnd => true
    | _ => false
  if rest.all isDocumentEnd then some tree else none

end Mustache.Yaml
