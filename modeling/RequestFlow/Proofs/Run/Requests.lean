import RequestFlow.Proofs.Run.Flights
import RequestFlow.Proofs.Template.Scopes
import RequestFlow.Proofs.Text.Blank

/-!
# RequestFlow.Proofs.Run.Requests

What is in the requests that a run sends.

* `TokenFree`        — a text without tokens of templates: `expand_strict_free` says that every
  strict expansion comes to one.
* `HttpToken`        — the tokens of the HTTP protocol, in the terms of its grammar.
* `Request.Expands`  — the parts of a request and those of its expansion.
* `Clean`            — a request without tokens in any part that is expanded, and with names and
  body as its leaf had them when it was past its first hook.
* `requests_clean`   — every request of every run is clean.
-/

namespace RequestFlow

open Template (Mode Occurs)

/-! ## Texts without tokens -/

namespace Template

def TokenFree (s : List Char) : Prop :=
  ∀ name, ¬ Occurs name s

theorem TokenFree.of_infix {s t : List Char} (hs : TokenFree s) (ht : t <:+: s) : TokenFree t :=
  fun name ho => hs name ⟨ho.1, ho.2.trans ht⟩

theorem TokenFree.trim {s : List Char} (hs : TokenFree s) : TokenFree (Text.trim s) := by
  obtain ⟨lead, trail, _, _, heq⟩ := (Text.trim_trims s).blanks
  exact hs.of_infix ⟨lead, trail, heq.symm⟩

theorem expand_strict_free {vars : Vars} {s r : String} (h : expand vars .strict s = .ok r) :
    TokenFree r.toList := by
  intro name ho
  obtain ⟨_, hmode⟩ := (expand_ok h).2 name ho
  cases hmode

end Template

open Template (TokenFree)

/-! ## Tokens of the HTTP protocol -/

/-- The visible ASCII characters that separate tokens. -/
def delimiters : List Char :=
  ['"', '(', ')', ',', '/', ':', ';', '<', '=', '>', '?', '@', '[', '\\', ']', '{', '}']

def HttpTokenChar (c : Char) : Prop :=
  0x21 ≤ c.toNat ∧ c.toNat ≤ 0x7E ∧ c ∉ delimiters

instance (c : Char) : Decidable (HttpTokenChar c) := by
  unfold HttpTokenChar; infer_instance

structure HttpToken (s : List Char) : Prop where
  ne_nil : s ≠ []
  chars : ∀ c ∈ s, HttpTokenChar c

theorem toNat_lt_of_isAlphanum {c : Char} (h : c.isAlphanum = true) : c.toNat < 0x80 := by
  rcases (Bool.or_eq_true _ _).mp h with halpha | hdigit
  · rcases (Bool.or_eq_true _ _).mp halpha with hupper | hlower
    · have hle : c.val ≤ 'Z'.val := (of_decide_eq_true hupper).2
      exact Nat.lt_of_le_of_lt hle (by decide)
    · have hle : c.val ≤ 'z'.val := of_decide_eq_true ((Bool.and_eq_true _ _).mp hlower).2
      exact Nat.lt_of_le_of_lt hle (by decide)
  · have hle : c.val ≤ '9'.val := of_decide_eq_true ((Bool.and_eq_true _ _).mp hdigit).2
    exact Nat.lt_of_le_of_lt hle (by decide)

theorem toNat_lt_of_isTokenChar {c : Char} (h : isTokenChar c = true) : c.toNat < 0x80 := by
  simp only [isTokenChar, Bool.or_eq_true] at h
  rcases h with h | h
  · exact toNat_lt_of_isAlphanum h
  · have hall : ("!#$%&'*+-.^_`|~".toList.all fun c => decide (c.toNat < 0x80)) = true := by decide
    have hmem : c ∈ "!#$%&'*+-.^_`|~".toList := by simpa using h
    exact of_decide_eq_true (List.all_eq_true.mp hall c hmem)

theorem isTokenChar_iff {c : Char} : isTokenChar c = true ↔ HttpTokenChar c := by
  have hascii : ∀ n < 0x80, isTokenChar (Char.ofNat n) = decide (HttpTokenChar (Char.ofNat n)) := by
    decide +kernel
  have hof (hc : c.toNat < 0x80) : isTokenChar c = true ↔ HttpTokenChar c := by
    have := hascii c.toNat hc
    rw [Char.ofNat_toNat] at this
    rw [this, decide_eq_true_iff]
  constructor
  · intro h
    exact (hof (toNat_lt_of_isTokenChar h)).mp h
  · intro h
    exact (hof (Nat.lt_of_le_of_lt h.2.1 (by decide))).mpr h

theorem httpToken_of_isToken {s : List Char} (h : isToken s = true) : HttpToken s := by
  simp only [isToken, Bool.and_eq_true, Bool.not_eq_true', List.all_eq_true] at h
  obtain ⟨hne, hall⟩ := h
  exact ⟨by simpa using hne, fun c hc => isTokenChar_iff.mp (hall c hc)⟩

/-! ## Expansion of a request -/

namespace Request

/-- The header `y` is `x` with its value expanded. -/
def ExpandsHeader (vars : Vars) (mode : Mode) (x y : String × String) : Prop :=
  y.1 = x.1 ∧ Template.expand vars mode x.2 = .ok y.2

/-- `r'` is the request `r` with its parts expanded. -/
structure Expands (vars : Vars) (mode : Mode) (r r' : Request) : Prop where
  method : Template.expand vars mode r.method = .ok r'.method
  url : Template.expand vars mode r.url = .ok r'.url
  headers : List.Forall₂ (ExpandsHeader vars mode) r.headers r'.headers
  body : r'.body = r.body

variable {vars : Vars} {mode : Mode} {headers headers' : Dict String} {r r' : Request}

theorem expandHeaders_ok (h : expandHeaders vars mode headers = (headers', none)) :
    List.Forall₂ (ExpandsHeader vars mode) headers headers' := by
  induction headers generalizing headers' with
  | nil =>
    cases h
    exact .nil
  | cons x rest ih =>
    obtain ⟨name, value⟩ := x
    simp only [expandHeaders] at h
    split at h
    · cases h
    · rename_i value' hvalue
      obtain ⟨rfl, hrest⟩ := Prod.mk.inj h
      exact .cons ⟨rfl, hvalue⟩ (ih (Prod.ext rfl hrest))

theorem expand_expands (h : r.expand vars mode = (r', none)) : Expands vars mode r r' := by
  simp only [Request.expand] at h
  split at h
  · cases h
  · rename_i method hmethod
    split at h
    · cases h
    · rename_i url hurl
      obtain ⟨rfl, hheaders⟩ := Prod.mk.inj h
      exact ⟨hmethod, hurl, expandHeaders_ok (Prod.ext rfl hheaders), rfl⟩

theorem names_expanded (h : List.Forall₂ (ExpandsHeader vars mode) headers headers') :
    headers'.names = headers.names := by
  induction h with
  | nil => rfl
  | cons hx _ ih => exact congrArg₂ List.cons hx.1 ih

theorem values_expanded (h : List.Forall₂ (ExpandsHeader vars .strict) headers headers') :
    ∀ x ∈ headers', TokenFree x.2.toList := by
  induction h with
  | nil => simp
  | cons hx _ ih => exact List.forall_mem_cons.mpr ⟨Template.expand_strict_free hx.2, ih⟩

theorem outgoing_ok {out : Outgoing} (h : r.outgoing = .ok out) :
    isToken (Text.trim r.method.toList) = true ∧
      out.method = String.ofList (Text.trim r.method.toList) ∧
      Url.ofText (Text.trim r.url.toList) = .ok out.url ∧ out.headers = r.headers ∧
      (∀ name ∈ r.headers.names, isToken name.toList = true) ∧ out.body = r.body := by
  simp only [outgoing] at h
  split at h
  · cases h
  · rename_i hmethod
    split at h
    · cases h
    · rename_i url hurl
      split at h
      · cases h
      · rename_i hnames
        cases h
        refine ⟨by simpa using hmethod, rfl, hurl, rfl, fun name hname => ?_, rfl⟩
        have := List.find?_eq_none.mp hnames name hname
        simpa using this

end Request

/-! ## The requests of a run -/

namespace Run

/-- `out` is the form of a request that came from `working` by expansion to `expanded`. -/
structure Clean (working expanded : Request) (out : Outgoing) : Prop where
  method : HttpToken out.method.toList ∧ TokenFree out.method.toList
  /-- What the URL is read from. -/
  url : Url.ofText (Text.trim expanded.url.toList) = .ok out.url ∧
    TokenFree (Text.trim expanded.url.toList)
  names : out.headers.names = working.headers.names ∧
    ∀ name ∈ out.headers.names, HttpToken name.toList
  values : ∀ x ∈ out.headers, TokenFree x.2.toList
  body : out.body = working.body

theorem clean_of_expands {locals globals : Vars} {r r₁ r₂ : Request} {out : Outgoing}
    (hlocals : r.Expands locals .lenient r₁) (hglobals : r₁.Expands globals .strict r₂)
    (hout : r₂.outgoing = .ok out) : Clean r r₂ out := by
  obtain ⟨htoken, hmethod, hurl, hheaders, hnames, hbody⟩ := Request.outgoing_ok hout
  have hmethodFree : TokenFree r₂.method.toList := Template.expand_strict_free hglobals.method
  have hurlFree : TokenFree r₂.url.toList := Template.expand_strict_free hglobals.url
  refine { method := ?_, url := ⟨hurl, hurlFree.trim⟩, names := ⟨?_, ?_⟩, values := ?_, body := ?_ }
  · rw [hmethod, String.toList_ofList]
    exact ⟨httpToken_of_isToken htoken, hmethodFree.trim⟩
  · rw [hheaders, Request.names_expanded hglobals.headers, Request.names_expanded hlocals.headers]
  · rw [hheaders]
    exact fun name hname => httpToken_of_isToken (hnames name hname)
  · rw [hheaders]
    exact Request.values_expanded hglobals.headers
  · rw [hbody, hglobals.body, hlocals.body]

/-- In the flight the leaf got past its first hook with the request `working`, expanded it to
`expanded` and sent it as `out`. -/
structure Flight.SendsFrom (h : Host) (f : Flight) (working expanded : Request) (out : Outgoing) :
    Prop where
  sent : out ∈ Run.sent f.own
  steps : ∃ s₁ w s₂, Prepared h f.leaf [f.number] (f.start h) s₁ w ∧ w.request = some working ∧
    expandWith h f.leaf s₁ w.locals working = (s₂, .ok expanded) ∧ expanded.outgoing = .ok out

section

variable {h : Host} {t : Trace} {f : Flight} {out : Outgoing}

theorem Flight.In.sent_iff (hf : f.In h t) :
    out ∈ sent f.own ↔ Dispatches h f.leaf [f.number] (f.start h) out := by
  obtain ⟨p, _, hexecute, hstate, _⟩ := hf.execute
  obtain ⟨o, ho, hiff⟩ := (execute_sends h f.leaf [f.number] (f.start h)).requests
  rw [hexecute, hstate] at ho
  have hown : sent f.own = o.toList :=
    List.append_cancel_left ((sent_append f.started f.own).symm.trans ho)
  rw [← hiff, hown, Option.mem_toList]

theorem Flight.In.clean (hf : f.In h t) (hout : out ∈ sent f.own) :
    ∃ working expanded, f.SendsFrom h working expanded out ∧ Clean working expanded out := by
  obtain ⟨_, s₁, w, hprepared, hsendable⟩ := hf.sent_iff.mp hout
  obtain @⟨r, r₁, r₂, hworking, hlocals, hlive, hfree, hglobals, haccepted, _⟩ := hsendable
  have hexpand : expandWith h f.leaf s₁ w.locals r =
      (s₁.perform h (.expansion f.leaf.name), .ok r₂) :=
    expandWith_ok.mpr ⟨r₁, hlocals, hlive, hfree, hglobals, rfl⟩
  refine ⟨r, r₂, ⟨hout, s₁, w, _, hprepared, hworking, hexpand, haccepted⟩, ?_⟩
  exact clean_of_expands (Request.expand_expands hlocals) (Request.expand_expands hglobals)
    haccepted

theorem runAll_sent {globals : Vars} {leaves : List Leaf}
    (hout : out ∈ sent (runAll h globals leaves).state.trace) :
    ∃ f : Flight, f.In h (runAll h globals leaves).state.trace ∧
      leaves[f.number]? = some f.leaf ∧ out ∈ sent f.own := by
  rw [runAll_eq] at hout ⊢
  obtain ⟨u, hu, hsenders, _⟩ := closed_trace h (runLeaves h 0 (opened h globals leaves) leaves)
  have hend : sent u = [] := by
    refine List.eq_nil_iff_forall_not_mem.mpr fun x hx => ?_
    obtain ⟨name, hname⟩ := mem_sent.mp hx
    have hmem : name ∈ senders u := mem_senders.mpr ⟨x, hname⟩
    simp [hsenders] at hmem
  rw [hu, sent_append, hend, List.append_nil] at hout
  rcases (runs_runLeaves h leaves 0 _).sent_flight ((Faithful.start h globals).emit _) hout with
    hopened | ⟨j, f, hin, hnumber, hleaf, hown⟩
  · simp [State.start] at hopened
  · rw [Nat.zero_add] at hnumber
    exact ⟨f, hin.mono (closed_proceeds h _).grows, hnumber ▸ hleaf, hown⟩

end

/-- Every request of a run was sent by one of its leaves, and is clean. -/
theorem requests_clean {h : Host} {globals : Vars} {leaves : List Leaf} {out : Outgoing}
    (hout : out ∈ sent (runAll h globals leaves).state.trace) :
    ∃ (f : Flight) (working expanded : Request), f.In h (runAll h globals leaves).state.trace ∧
      leaves[f.number]? = some f.leaf ∧ f.SendsFrom h working expanded out ∧
        Clean working expanded out := by
  obtain ⟨f, hin, hleaf, hown⟩ := runAll_sent hout
  obtain ⟨working, expanded, hsends, hclean⟩ := hin.clean hown
  exact ⟨f, working, expanded, hin, hleaf, hsends, hclean⟩

/-- A leaf whose first hook writes tokens into all parts of its request. -/
def tokenLeaf : Leaf where
  name := "a"
  request := some { method := "P$\x7bm\x7d", url := "" }
  before := "locals.m = \"OS$\x7bt\x7d\"\nrequest.url = \"http://h/$\x7bp\x7d\"\n" ++
    "request.headers.X = \"$\x7bq\x7d\"\nrequest.body = \"$\x7bq\x7d\""

def scriptHost : Host :=
  { plainHost with engine := .script ⟨fun _ => none, fun _ => ""⟩ }

/-- The values put in hold tokens again. -/
def tokenValues : Vars := [("p", .str "a$\x7bq\x7d"), ("q", .str "b"), ("t", .str "T")]

theorem requests_clean_tokenLeaf :
    ∃ out, sent (runAll scriptHost tokenValues [tokenLeaf]).state.trace = [out] ∧
      out.method = "POST" ∧ out.url.text = "http://h/ab" ∧ out.headers = [("X", "b")] ∧
      out.body = Text.Utf8.encode "$\x7bq\x7d" ∧
      ∃ (f : Flight) (working expanded : Request),
        f.In scriptHost (runAll scriptHost tokenValues [tokenLeaf]).state.trace ∧
          [tokenLeaf][f.number]? = some f.leaf ∧ f.SendsFrom scriptHost working expanded out ∧
            Clean working expanded out := by
  have hsent : (sent (runAll scriptHost tokenValues [tokenLeaf]).state.trace).map
      (fun out => (out.method, out.url.text, out.headers, out.body)) =
        [("POST", "http://h/ab", [("X", "b")], Text.Utf8.encode "$\x7bq\x7d")] := by
    decide +kernel
  obtain ⟨out, hout, heq⟩ := List.map_eq_singleton_iff.mp hsent
  simp only [Prod.mk.injEq] at heq
  obtain ⟨hmethod, hurl, hheaders, hbody⟩ := heq
  have hmem : out ∈ sent (runAll scriptHost tokenValues [tokenLeaf]).state.trace := by
    rw [hout]
    exact List.mem_singleton_self out
  exact ⟨out, hout, hmethod, hurl, hheaders, hbody, requests_clean hmem⟩

end Run

end RequestFlow
