import RequestFlow.Yaml.Token

/-!
# RequestFlow.Yaml.Node

The nodes of a YAML document: scalars, sequences and mappings, and references to nodes that
carry an anchor.

* `Node.ofTokens?` — the one document of a text, if it has any.
-/

namespace RequestFlow.Yaml

structure Properties where
  anchor : Option (List Char) := none
  tag : Option (List Char) := none
deriving Repr, DecidableEq

inductive Node where
  /-- A name, and how many anchored nodes come before it. -/
  | reference (name : List Char) (before : Nat)
  | scalar (p : Properties) (text : List Char) (isPlain : Bool)
  | sequence (p : Properties) (items : List Node)
  | mapping (p : Properties) (entries : List (Node × Node))

namespace Node

def absent : Node := .scalar {} [] true

/-- What handles stand for. -/
abbrev Handles := List (List Char × List Char)

def defaultHandles : Handles :=
  [("!".toList, "!".toList), ("!!".toList, "tag:yaml.org,2002:".toList)]

/-- The full tag; `none` behind an unknown handle. -/
def fullTag? (handles : Handles) (handle suffix : List Char) : Option (List Char) :=
  if handle.isEmpty then some suffix
  else (handles.lookup handle).map (· ++ suffix)

/-- The anchor and the tag before a node, in either order. -/
def properties? (handles : Handles) : List Token → Option (Properties × List Token)
  | .anchor name :: .tag handle suffix :: rest =>
    (fullTag? handles handle suffix).map fun tag => (⟨some name, some tag⟩, rest)
  | .tag handle suffix :: .anchor name :: rest =>
    (fullTag? handles handle suffix).map fun tag => (⟨some name, some tag⟩, rest)
  | .anchor name :: rest => some (⟨some name, none⟩, rest)
  | .tag handle suffix :: rest =>
    (fullTag? handles handle suffix).map fun tag => (⟨none, some tag⟩, rest)
  | tokens => some ({}, tokens)

/-- A tag of a single exclamation mark says nothing about a scalar. -/
def scalarOf (p : Properties) (text : List Char) (isPlain : Bool) : Node :=
  .scalar (if p.tag == some ['!'] then { p with tag := none } else p) text isPlain

inductive Context where
  /-- In a block collection. -/
  | block
  /-- A key or value of a block mapping, where a sequence need not be indented. -/
  | mapping
  /-- In a flow collection. -/
  | flow
deriving DecidableEq

def endsBlockItem : List Token → Bool
  | .blockEntry :: _ => true
  | .blockEnd :: _ => true
  | _ => false

def endsBlockNode : List Token → Bool
  | .key :: _ => true
  | .value :: _ => true
  | .blockEnd :: _ => true
  | _ => false

def endsFlowItem : List Token → Bool
  | .value :: _ => true
  | .flowEntry :: _ => true
  | .flowSequenceEnd :: _ => true
  | _ => false

def endsFlowNode : List Token → Bool
  | .value :: _ => true
  | .flowEntry :: _ => true
  | .flowMappingEnd :: _ => true
  | _ => false

/-- The tokens after the comma that separates the items of a flow collection; before the first
item there is none. -/
def afterComma? (isFirst : Bool) : List Token → Option (List Token)
  | .flowEntry :: rest => if isFirst then some (.flowEntry :: rest) else some rest
  | tokens => if isFirst then some tokens else none

mutual

def read (handles : Handles) (ctx : Context) : (fuel : Nat) → List Token →
    Option (Node × List Token)
  | 0, _ => none
  | _ + 1, .reference name before :: rest => some (.reference name before, rest)
  | fuel + 1, tokens => do
    let (p, rest) ← properties? handles tokens
    match rest, ctx with
    | .scalar text isPlain :: rest, _ => some (scalarOf p text isPlain, rest)
    | .flowSequenceStart :: rest, _ =>
      (flowItems handles true fuel rest).map fun (items, rest) => (.sequence p items, rest)
    | .flowMappingStart :: rest, _ =>
      (flowEntries handles true fuel rest).map fun (entries, rest) => (.mapping p entries, rest)
    | .blockEntry :: _, .mapping =>
      (openItems handles fuel rest).map fun (items, rest) => (.sequence p items, rest)
    | .blockSequenceStart :: rest, .block | .blockSequenceStart :: rest, .mapping =>
      (blockItems handles fuel rest).map fun (items, rest) => (.sequence p items, rest)
    | .blockMappingStart :: rest, .block | .blockMappingStart :: rest, .mapping =>
      (blockEntries handles fuel rest).map fun (entries, rest) => (.mapping p entries, rest)
    | _, _ => if p == {} then none else some (.scalar p [] true, rest)

def blockItems (handles : Handles) : (fuel : Nat) → List Token → Option (List Node × List Token)
  | 0, _ => none
  | fuel + 1, .blockEntry :: rest => do
    let (item, rest) ←
      if endsBlockItem rest then some (absent, rest) else read handles .block fuel rest
    let (items, rest) ← blockItems handles fuel rest
    some (item :: items, rest)
  | _ + 1, .blockEnd :: rest => some ([], rest)
  | _ + 1, _ => none

/-- The items of a sequence that is not indented; it ends with its last item. -/
def openItems (handles : Handles) : (fuel : Nat) → List Token → Option (List Node × List Token)
  | 0, _ => none
  | fuel + 1, .blockEntry :: rest => do
    let (item, rest) ←
      if endsBlockItem rest || endsBlockNode rest then some (absent, rest)
      else read handles .block fuel rest
    let (items, rest) ← openItems handles fuel rest
    some (item :: items, rest)
  | _ + 1, tokens => some ([], tokens)

def blockEntries (handles : Handles) : (fuel : Nat) → List Token →
    Option (List (Node × Node) × List Token)
  | 0, _ => none
  | _ + 1, .blockEnd :: rest => some ([], rest)
  | fuel + 1, .key :: rest => do
    let (key, rest) ←
      if endsBlockNode rest then some (absent, rest) else read handles .mapping fuel rest
    let (value, rest) ← blockValue handles fuel rest
    let (entries, rest) ← blockEntries handles fuel rest
    some ((key, value) :: entries, rest)
  | _ + 1, _ => none

/-- The value of an entry, which may be left out together with its sign. -/
def blockValue (handles : Handles) : (fuel : Nat) → List Token → Option (Node × List Token)
  | 0, _ => none
  | fuel + 1, .value :: rest =>
    if endsBlockNode rest then some (absent, rest) else read handles .mapping fuel rest
  | _ + 1, tokens => some (absent, tokens)

/-- The items of a flow sequence, and its end. An item may be a mapping of one entry. -/
def flowItems (handles : Handles) (isFirst : Bool) : (fuel : Nat) → List Token →
    Option (List Node × List Token)
  | 0, _ => none
  | _ + 1, .flowSequenceEnd :: rest => some ([], rest)
  | fuel + 1, tokens => do
    let tokens ← afterComma? isFirst tokens
    match tokens with
    | .flowSequenceEnd :: rest => some ([], rest)
    | .key :: rest =>
      let (key, rest) ←
        if endsFlowItem rest then some (absent, rest.drop 1) else read handles .flow fuel rest
      let (value, rest) ← flowValue handles fuel rest
      let (items, rest) ← flowItems handles false fuel rest
      some (.mapping {} [(key, value)] :: items, rest)
    | _ =>
      let (item, rest) ← read handles .flow fuel tokens
      let (items, rest) ← flowItems handles false fuel rest
      some (item :: items, rest)

/-- The entries of a flow mapping, and its end. A key may stand without a value. -/
def flowEntries (handles : Handles) (isFirst : Bool) : (fuel : Nat) → List Token →
    Option (List (Node × Node) × List Token)
  | 0, _ => none
  | _ + 1, .flowMappingEnd :: rest => some ([], rest)
  | fuel + 1, tokens => do
    let tokens ← afterComma? isFirst tokens
    match tokens with
    | .flowMappingEnd :: rest => some ([], rest)
    | .key :: rest =>
      let (key, rest) ←
        if endsFlowNode rest then some (absent, rest) else read handles .flow fuel rest
      let (value, rest) ← flowValue handles fuel rest
      let (entries, rest) ← flowEntries handles false fuel rest
      some ((key, value) :: entries, rest)
    | _ =>
      let (key, rest) ← read handles .flow fuel tokens
      let (entries, rest) ← flowEntries handles false fuel rest
      some ((key, absent) :: entries, rest)

def flowValue (handles : Handles) : (fuel : Nat) → List Token → Option (Node × List Token)
  | 0, _ => none
  | fuel + 1, .value :: rest =>
    match rest with
    | .flowEntry :: _ | .flowSequenceEnd :: _ | .flowMappingEnd :: _ => some (absent, rest)
    | _ => read handles .flow fuel rest
  | _ + 1, tokens => some (absent, tokens)

end

/-! ## Documents -/

def directives? (versioned : Bool) (handles : Handles) : List Token →
    Option (Handles × List Token)
  | .version major minor :: rest =>
    if !versioned && major == 1 && (minor == 1 || minor == 2) then directives? true handles rest
    else none
  | .tagBase handle base :: rest =>
    if (handles.lookup handle).isSome then none
    else directives? versioned ((handle, base) :: handles) rest
  | tokens => some (handles, tokens)

def endsDocument : List Token → Bool
  | [] => true
  | .version _ _ :: _ => true
  | .tagBase _ _ :: _ => true
  | .documentStart :: _ => true
  | .documentEnd :: _ => true
  | _ => false

def marked? (fuel : Nat) (tokens : List Token) : Option (Node × List Token) := do
  let (handles, rest) ← directives? false [] tokens
  match rest with
  | .documentStart :: rest =>
    if endsDocument rest then some (absent, rest)
    else read (handles ++ defaultHandles) .block fuel rest
  | _ => none

/-- The root node of the document, if there is one; a text must not have two of them. -/
def ofTokens? (tokens : List Token) : Option (Option Node) := do
  let fuel := 2 * tokens.length + 2
  match tokens with
  | [] => some none
  | .version _ _ :: _ | .tagBase _ _ :: _ | .documentStart :: _ => finish (← marked? fuel tokens)
  | _ => finish (← read defaultHandles .block fuel tokens)
where
  finish : Node × List Token → Option (Option Node)
    | (node, rest) => if rest.all (· == .documentEnd) then some (some node) else none

end Node

end RequestFlow.Yaml
