import RequestFlow.Run.Host

/-!
# RequestFlow.Run.Leaf

One leaf from its first hook to its last. Before it runs a hook, waits for the variables or
sends a request, a leaf looks whether the run has been cancelled; what it has begun it does
not break off, unless it has to wait.

* `callHook`   — one of the leaf's hooks.
* `expandWith` — the request with the leaf's own variables and then the shared ones.
* `dispatch`   — the exchange with the client.
* `runLeaf`    — all stages, with the record of the leaf.
-/

namespace RequestFlow.Run

open Hook (Side Site Scene HookError)

structure Working where
  locals : Vars := []
  request : Option Request
  response : Option Response := none

/-- Waits for something that does not come, until the run is cancelled or time is up. -/
def await (h : Host) (s : State) (timeUp : LeafError) : State × LeafError :=
  let s := s.perform h .waited
  (s, if s.cancelled then .cancelled else timeUp)

def sceneFor (s : State) (w : Working) : Side → Scene
  | .before => { globals := s.globals, locals := w.locals, request := w.request }
  | .after =>
    { globals := s.globals, locals := w.locals,
      response := (w.response.map Response.view).getD .null }

/-- The leaf after a hook, which may have changed its variables and, before the exchange, its
request. A hook cannot give a leaf a request, or take it away. -/
def Working.afterHook (w : Working) (side : Side) (scene : Scene) : Working :=
  match side with
  | .before =>
    { w with locals := scene.locals, request := w.request.map fun r => scene.request.getD r }
  | .after => { w with locals := scene.locals }

def callHook (h : Host) (leaf : Leaf) (hooks : HookPair) (side : Side) (site : Site)
    (s : State) (w : Working) : State × Working × Option LeafError :=
  let timeUp := LeafError.hook (.timeout h.hookLimit)
  if s.cancelled then (s, w, some .cancelled)
  else if hooks.needsGlobals side && h.lockHeld s.trace then
    let (s, e) := await h s timeUp
    (s, w, some e)
  else
    match hooks.call side site (sceneFor s w side) with
    | .stuck globals =>
      let (s, e) := await h { s with globals } timeUp
      (s, w, some e)
    | .done scene failure =>
      let s := { s with globals := scene.globals }.perform h (.hook leaf.name side)
      (s, w.afterHook side scene, failure.map .hook)

/-- Expands a request, first leniently with the leaf's own variables, then strictly with the
shared ones. -/
def expandWith (h : Host) (leaf : Leaf) (s : State) (locals : Vars) (r : Request) :
    State × Except LeafError Request :=
  match r.expand locals .lenient with
  | (_, some e) => (s, .error (.template e))
  | (r, none) =>
    if s.cancelled then (s, .error .cancelled)
    else if h.lockHeld s.trace then
      let (s, e) := await h s (.globalsTimeout h.hookLimit)
      (s, .error e)
    else
      let s := s.perform h (.expansion leaf.name)
      match r.expand s.globals .strict with
      | (_, some e) => (s, .error (.template e))
      | (r, none) => (s, .ok r)

def dispatch (h : Host) (leaf : Leaf) (s : State) (r : Request) :
    State × Except LeafError Response :=
  match r.outgoing with
  | .error fault => (s, .error (.transport (.invalidRequest fault.message)))
  | .ok out =>
    if s.cancelled then (s, .error .cancelled)
    else
      let answer := h.client s.trace out
      let s := s.perform h (.sent leaf.name out)
      match answer with
      | .response r => (s, .ok r)
      | .failure e => (s, .error (.transport e))
      | .silence => (s, .error (if s.cancelled then .cancelled else .transport .timeout))

structure Progress where
  state : State
  stage : Stage
  httpStatus : Option Nat := none
  error : Option LeafError := none

/-- The last stage: the hook after the exchange. -/
def finish (h : Host) (leaf : Leaf) (hooks : Option HookPair) (site : Site) (s : State)
    (w : Working) : Progress :=
  let httpStatus := w.response.map (·.status)
  let completed (s : State) : Progress := { state := s, stage := .completed, httpStatus }
  match hooks with
  | none => completed s
  | some pair =>
    if leaf.after.isEmpty then completed s
    else
      match callHook h leaf pair .after (1 :: site) s w with
      | (s, _, some e) => { state := s, stage := .afterHook, httpStatus, error := some e }
      | (s, _, none) => completed s

/-- Expansion and exchange, if the leaf has a request. -/
def exchange (h : Host) (leaf : Leaf) (hooks : Option HookPair) (site : Site) (s : State)
    (w : Working) : Progress :=
  match w.request with
  | none => finish h leaf hooks site s w
  | some r =>
    match expandWith h leaf s w.locals r with
    | (s, .error e) => { state := s, stage := .expansion, error := some e }
    | (s, .ok r) =>
      match dispatch h leaf s r with
      | (s, .error e) => { state := s, stage := .dispatch, error := some e }
      | (s, .ok response) => finish h leaf hooks site s { w with response := some response }

def hooksOf (h : Host) (leaf : Leaf) (s : State) : Except LeafError (Option HookPair) :=
  if leaf.hasHooks then
    match h.engine.compile s.trace leaf with
    | .error e => .error (.hook e)
    | .ok pair => .ok (some pair)
  else .ok none

def execute (h : Host) (leaf : Leaf) (site : Site) (s : State) : Progress :=
  let w : Working := { request := leaf.request }
  match hooksOf h leaf s with
  | .error e => { state := s, stage := .beforeHook, error := some e }
  | .ok none => exchange h leaf none site s w
  | .ok (some pair) =>
    if leaf.before.isEmpty then exchange h leaf (some pair) site s w
    else
      match callHook h leaf pair .before (0 :: site) s w with
      | (s, _, some e) => { state := s, stage := .beforeHook, error := some e }
      | (s, w, none) => exchange h leaf (some pair) site s w

def Progress.record (p : Progress) (leaf : Leaf) : Record where
  name := leaf.name
  stage := p.stage
  error := p.error
  httpStatus := p.httpStatus
  mandatory := leaf.mandatory
  isGlobal := leaf.isGlobal

def runLeaf (h : Host) (leaf : Leaf) (site : Site) (s : State) : State × Record :=
  let p := execute h leaf site s
  (p.state, p.record leaf)

end RequestFlow.Run
