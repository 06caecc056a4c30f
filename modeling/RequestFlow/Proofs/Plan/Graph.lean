import RequestFlow.Plan.Text
import RequestFlow.Proofs.Dict
import RequestFlow.Proofs.Plan.Order

/-!
# RequestFlow.Proofs.Plan.Graph

The graph of a plan in the DOT language, read back.

* `Dot.identifier?`  — the quoted identifier at the start of a text.
* `Dot.lines`        — the lines of a text that draw a node or an edge.
* `Dot.Draws`        — whatever follows it, a text draws certain lines.
* `Plan.Drawn`       — the names of a plan are told apart in its graph, which has its leaves and
  its dependencies.
* `dot_faithful`     — a plan is drawn as it is, but for the carriage returns in its names.
-/

namespace RequestFlow

namespace Dot

/-! ## Reading -/

/-- A quoted text up to the quote that closes it, and what follows. A backslash hides the
character after it. -/
def closeQuote : List Char → Option (List Char × List Char)
  | [] => none
  | '"' :: rest => some ([], rest)
  | ['\\'] => none
  | '\\' :: c :: rest =>
    (closeQuote rest).map fun (s, more) => ((if c = 'n' then '\n' else c) :: s, more)
  | c :: rest => (closeQuote rest).map fun (s, more) => (c :: s, more)

def identifier? : List Char → Option (String × List Char)
  | '"' :: rest => (closeQuote rest).map fun (s, more) => (String.ofList s, more)
  | _ => none

inductive Line where
  | node (name : String)
  | edge (source target : String)
deriving DecidableEq

/-- The node or the edge that a line draws. -/
def line? : List Char → Option Line
  | ' ' :: ' ' :: rest =>
    match identifier? rest with
    | some (a, [';']) => some (.node a)
    | some (a, ' ' :: '-' :: '>' :: ' ' :: rest) =>
      match identifier? rest with
      | some (b, [';']) => some (.edge a b)
      | _ => none
    | _ => none
  | _ => none

def lines (text : List Char) : List Line :=
  (text.splitOn '\n').filterMap line?

def nodes (ls : List Line) : List String :=
  ls.flatMap fun
    | .node a => [a]
    | .edge a b => [a, b]

def edges (ls : List Line) : List (String × String) :=
  ls.filterMap fun
    | .node _ => none
    | .edge a b => some (a, b)

/-- A name as a graph shows it, without its carriage returns. -/
def shown (name : String) : String :=
  String.ofList (name.toList.filter (· ≠ '\r'))

end Dot

open Dot

/-- The graph of a plan shows its leaves and its dependencies, each leaf under the name that
`display` gives it. -/
structure Plan.Drawn (p : Plan) (title : String) (display : String → String) : Prop where
  /-- A name ends its own quotes where it ends. -/
  closed : ∀ leaf ∈ p.order, ∀ rest,
    identifier? ((Plan.dotQuote leaf).toList ++ rest) = some (display leaf, rest)
  distinct : ∀ a ∈ p.order, ∀ b ∈ p.order,
    Plan.dotQuote a = Plan.dotQuote b ↔ display a = display b
  nodes : ∀ x, x ∈ nodes (lines (p.dot title).toList) ↔ ∃ leaf ∈ p.order, display leaf = x
  edges : (edges (lines (p.dot title).toList)).Perm
    (p.dependsOn.flatMap fun (leaf, needs) => needs.map fun n => (display n, display leaf))

namespace Dot

open Plan (dotEscape dotQuote)

/-! ## Identifiers -/

theorem closeQuote_escape (name rest : List Char) :
    closeQuote (name.flatMap dotEscape ++ '"' :: rest) = some (name.filter (· ≠ '\r'), rest) := by
  induction name with
  | nil => rfl
  | cons c name ih =>
    rw [List.flatMap_cons, List.append_assoc]
    by_cases hquote : c = '"'
    · subst hquote
      simp [dotEscape, closeQuote, ih]
    by_cases hbackslash : c = '\\'
    · subst hbackslash
      simp [dotEscape, closeQuote, ih]
    by_cases hnewline : c = '\n'
    · subst hnewline
      simp [dotEscape, closeQuote, ih]
    by_cases hreturn : c = '\r'
    · subst hreturn
      simp [dotEscape, ih]
    simp [dotEscape, closeQuote, hquote, hbackslash, hnewline, hreturn, ih]

theorem toList_dotQuote (name : String) :
    (dotQuote name).toList = '"' :: (name.toList.flatMap dotEscape ++ ['"']) := by
  simp [dotQuote]

theorem identifier?_dotQuote (name : String) (rest : List Char) :
    identifier? ((dotQuote name).toList ++ rest) = some (shown name, rest) := by
  rw [toList_dotQuote]
  simp [identifier?, closeQuote_escape, shown]

theorem escape_filter (name : List Char) :
    (name.filter (· ≠ '\r')).flatMap dotEscape = name.flatMap dotEscape := by
  induction name with
  | nil => rfl
  | cons c name ih =>
    by_cases hreturn : c = '\r'
    · subst hreturn
      simpa [dotEscape] using ih
    · simpa [hreturn] using ih

theorem dotQuote_eq_iff (a b : String) : dotQuote a = dotQuote b ↔ shown a = shown b := by
  constructor
  · intro h
    have hread := identifier?_dotQuote a []
    rw [h, identifier?_dotQuote b []] at hread
    simpa using hread.symm
  · intro h
    have hfilter : a.toList.filter (· ≠ '\r') = b.toList.filter (· ≠ '\r') := by
      exact String.ofList_injective h
    rw [dotQuote, dotQuote, ← escape_filter, hfilter, escape_filter]

theorem shown_of_no_return {name : String} (h : '\r' ∉ name.toList) : shown name = name := by
  have hall : name.toList.filter (· ≠ '\r') = name.toList :=
    List.filter_eq_self.mpr fun c hc => decide_eq_true fun heq => h (heq ▸ hc)
  rw [shown, hall, String.ofList_toList]

theorem newline_not_mem_dotEscape (c : Char) : '\n' ∉ dotEscape c := by
  by_cases hnewline : c = '\n'
  · subst hnewline
    decide
  · unfold dotEscape
    split_ifs <;> simp [Ne.symm hnewline]

theorem newline_not_mem_dotQuote (name : String) : '\n' ∉ (dotQuote name).toList := by
  simp [toList_dotQuote, newline_not_mem_dotEscape]

/-! ## Lines -/

/-- Whatever follows it, a text draws these lines. -/
def Draws (text : String) (ls : List Line) : Prop :=
  ∀ rest, lines (text.toList ++ rest) = ls ++ lines rest

theorem Draws.append {s t : String} {ls ms : List Line} (hs : Draws s ls) (ht : Draws t ms) :
    Draws (s ++ t) (ls ++ ms) := by
  intro rest
  rw [String.toList_append, List.append_assoc, hs, ht, List.append_assoc]

theorem draws_flatMap {α : Type} {texts : α → List String} {ls : α → List Line} {l : List α}
    (h : ∀ a ∈ l, Draws (String.join (texts a)) (ls a)) :
    Draws (String.join (l.flatMap texts)) (l.flatMap ls) := by
  induction l with
  | nil => intro rest; simp
  | cons a l ih =>
    have hjoin : String.join ((a :: l).flatMap texts) =
        String.join (texts a) ++ String.join (l.flatMap texts) := by
      simp
    rw [hjoin, List.flatMap_cons]
    exact (h a List.mem_cons_self).append (ih fun b hb => h b (List.mem_cons_of_mem _ hb))

theorem draws_map {α : Type} {text : α → String} {ls : α → List Line} {l : List α}
    (h : ∀ a ∈ l, Draws (text a) (ls a)) : Draws (String.join (l.map text)) (l.flatMap ls) := by
  rw [List.map_eq_flatMap]
  exact draws_flatMap fun a ha => by simpa using h a ha

theorem draws_line {text : String} (line : List Char) (htext : text.toList = line ++ ['\n'])
    (h : '\n' ∉ line) : Draws text (line? line).toList := by
  intro rest
  have hsplit : (text.toList ++ rest).splitOn '\n' = line :: rest.splitOn '\n' := by
    rw [htext, List.append_assoc]
    exact List.splitOn_append_cons_self_of_not_mem h rest
  rw [lines, hsplit, List.filterMap_cons, lines]
  cases line? line <;> rfl

theorem draws_node (leaf : String) : Draws s!"  {dotQuote leaf};\n" [.node (shown leaf)] := by
  have hline : line? (' ' :: ' ' :: ((dotQuote leaf).toList ++ [';'])) =
      some (.node (shown leaf)) := by
    simp [line?, identifier?_dotQuote]
  have hdraws : Draws s!"  {dotQuote leaf};\n" _ :=
    draws_line (' ' :: ' ' :: ((dotQuote leaf).toList ++ [';'])) (by simp [toString])
      (by simp [newline_not_mem_dotQuote])
  rwa [hline] at hdraws

theorem draws_edge (a b : String) :
    Draws s!"  {dotQuote a} -> {dotQuote b};\n" [.edge (shown a) (shown b)] := by
  have hline : line? (' ' :: ' ' :: ((dotQuote a).toList ++
      ' ' :: '-' :: '>' :: ' ' :: ((dotQuote b).toList ++ [';']))) =
        some (.edge (shown a) (shown b)) := by
    simp [line?, identifier?_dotQuote]
  have hdraws : Draws s!"  {dotQuote a} -> {dotQuote b};\n" _ :=
    draws_line (' ' :: ' ' :: ((dotQuote a).toList ++
      ' ' :: '-' :: '>' :: ' ' :: ((dotQuote b).toList ++ [';'])))
      (by simp [toString]) (by simp [newline_not_mem_dotQuote])
  rwa [hline] at hdraws

/-! ## Plans -/

def drawing (p : Plan) (leaf : String) : List Line :=
  match p.needs leaf with
  | [] => [.node (shown leaf)]
  | needs => needs.map fun n => .edge (shown n) (shown leaf)

theorem draws_leaf (p : Plan) (leaf : String) :
    Draws (String.join (p.dotLines leaf)) (drawing p leaf) := by
  unfold Plan.dotLines drawing
  cases p.needs leaf with
  | nil => simpa using draws_node leaf
  | cons n needs =>
    have hdraws : Draws (String.join ((n :: needs).map _)) _ :=
      draws_map fun n _ => draws_edge n leaf
    rwa [← List.map_eq_flatMap] at hdraws

theorem draws_title (title : String) : Draws s!"  label={dotQuote title};\n" [] :=
  draws_line ("  label=".toList ++ (dotQuote title).toList ++ [';'])
    (by simp [toString]) (by simp [newline_not_mem_dotQuote])

theorem draws_rank (leaves : List String) : Draws (Plan.dotRank leaves) [] := by
  unfold Plan.dotRank
  split
  · refine draws_line ("  \x7b rank=same; ".toList ++
      (String.join (leaves.map fun leaf => dotQuote leaf ++ "; ")).toList ++ ['\x7d']) ?_ ?_
    · simp
    · simp [String.toList_join, newline_not_mem_dotQuote]
  · intro rest
    rfl

/-- The graph of a plan draws what its leaves do, in their order. -/
theorem draws_dot (p : Plan) (title : String) :
    Draws (p.dot title) (p.order.flatMap (drawing p)) := by
  have hhead : Draws "digraph pepper \x7b\n" [] :=
    draws_line "digraph pepper \x7b".toList (by simp) (by simp)
  have hlocation : Draws "  labelloc=t;\n" [] :=
    draws_line "  labelloc=t;".toList (by simp) (by simp)
  have hdirection : Draws "  rankdir=LR;\n" [] :=
    draws_line "  rankdir=LR;".toList (by simp) (by simp)
  have hleaves : Draws (String.join (p.order.flatMap p.dotLines)) (p.order.flatMap (drawing p)) :=
    draws_flatMap fun leaf _ => draws_leaf p leaf
  have hranks : Draws (String.join (p.levels.map Plan.dotRank)) [] := by
    have hdraws : Draws (String.join (p.levels.map Plan.dotRank)) _ :=
      draws_map fun leaves _ => draws_rank leaves
    rwa [List.flatMap_eq_nil_iff.mpr fun _ _ => rfl] at hdraws
  have hlast : Draws "\x7d\n" [] := draws_line "\x7d".toList (by simp) (by simp)
  have hall := (((((hhead.append (draws_title title)).append hlocation).append hdirection).append
    hleaves).append hranks).append hlast
  simp only [List.nil_append, List.append_nil] at hall
  exact hall

theorem lines_dot (p : Plan) (title : String) :
    lines (p.dot title).toList = p.order.flatMap (drawing p) := by
  have hlines := draws_dot p title []
  rw [List.append_nil] at hlines
  rw [hlines]
  exact List.append_nil _

theorem edges_drawing (p : Plan) (order : List String) :
    edges (order.flatMap (drawing p)) =
      order.flatMap fun leaf => (p.needs leaf).map fun n => (shown n, shown leaf) := by
  induction order with
  | nil => rfl
  | cons leaf order ih =>
    rw [List.flatMap_cons, List.flatMap_cons, ← ih, edges, List.filterMap_append, edges]
    congr 1
    unfold drawing
    cases p.needs leaf with
    | nil => rfl
    | cons n needs => simp

theorem mem_nodes_drawing (p : Plan) (order : List String) (x : String) :
    x ∈ nodes (order.flatMap (drawing p)) ↔
      ∃ leaf ∈ order, shown leaf = x ∨ ∃ n ∈ p.needs leaf, shown n = x := by
  have hleaf (leaf : String) : x ∈ nodes (drawing p leaf) ↔
      shown leaf = x ∨ ∃ n ∈ p.needs leaf, shown n = x := by
    unfold drawing
    cases p.needs leaf with
    | nil => simp [nodes, eq_comm]
    | cons n needs =>
      have hmem : x ∈ nodes ((n :: needs).map fun n => .edge (shown n) (shown leaf)) ↔
          ∃ m ∈ n :: needs, x = shown m ∨ x = shown leaf := by
        simp [nodes, or_assoc]
      rw [hmem]
      constructor
      · rintro ⟨m, hm, rfl | rfl⟩
        · exact .inr ⟨m, hm, rfl⟩
        · exact .inl rfl
      · rintro (rfl | ⟨m, hm, rfl⟩)
        · exact ⟨n, List.mem_cons_self, .inr rfl⟩
        · exact ⟨m, hm, .inl rfl⟩
  rw [nodes, List.flatMap_assoc, List.mem_flatMap]
  exact exists_congr fun leaf => and_congr_right fun _ => hleaf leaf

end Dot

namespace Plan

variable {d : Document} {p : Plan}

theorem dependsOn_spec (hd : d.names.Nodup) (hp : d.plan = .ok p) :
    p.dependsOn.names.Perm p.order ∧
      ∀ leaf needs, (leaf, needs) ∈ p.dependsOn → p.needs leaf = needs ∧
        ∀ n ∈ needs, n ∈ p.order := by
  have horder := plan_orders hd hp
  obtain ⟨_, hresolved, _, rfl⟩ := plan_ok hd hp
  let entries := (d.leaves.map taskOf).map fun t => (t.name, t.needs)
  have hnames : entries.map (·.1) = d.names := by
    simp [entries, ← taskOf_names]
  have hdependsOn : (planOf d).dependsOn = Dict.ofList entries := rfl
  have hnodup : (Dict.ofList entries).names.Nodup := (Dict.ordered_ofList entries).names_nodup
  have hmem (leaf : String) (needs : List String) :
      (leaf, needs) ∈ Dict.ofList entries ↔ (leaf, needs) ∈ entries := by
    rw [← Dict.get?_iff_mem hnodup, Dict.get?_ofList_iff (hnames ▸ hd)]
  rw [hdependsOn]
  constructor
  · refine List.Perm.trans ?_ horder.perm.symm
    refine (List.perm_ext_iff_of_nodup hnodup hd).mpr fun name => ?_
    rw [← hnames]
    simp [Dict.names, hmem]
  · intro leaf needs hentry
    refine ⟨?_, fun n hn => ?_⟩
    · rw [Plan.needs, hdependsOn, (Dict.get?_iff_mem hnodup).mpr hentry, Option.getD_some]
    · obtain ⟨l, hl, heq⟩ : ∃ l ∈ d.leaves, (l.name, l.dependsOn.eraseDups) = (leaf, needs) := by
        simpa [entries, taskOf] using (hmem leaf needs).mp hentry
      cases heq
      exact horder.perm.mem_iff.mpr (hresolved l hl n (List.mem_eraseDups.mp hn))

/-- A plan is drawn as it is, each name without its carriage returns: names that differ without
them are told apart, and the lines of nodes and edges give the leaves and what each depends on. -/
theorem dot_faithful {bytes : Text.Utf8.Bytes} (h : Document.read bytes = .ok d)
    (hp : d.plan = .ok p) (title : String) : p.Drawn title shown := by
  have hd := Document.read_names_nodup h
  obtain ⟨hnames, hentries⟩ := dependsOn_spec hd hp
  have hneeds (leaf : String) (hleaf : leaf ∈ p.order) : (leaf, p.needs leaf) ∈ p.dependsOn := by
    obtain ⟨⟨_, needs⟩, hentry, rfl⟩ := List.mem_map.mp (hnames.mem_iff.mpr hleaf)
    exact (hentries _ _ hentry).1 ▸ hentry
  refine ⟨fun leaf _ => identifier?_dotQuote leaf, fun a _ b _ => dotQuote_eq_iff a b, ?_, ?_⟩
  · intro x
    rw [lines_dot, mem_nodes_drawing]
    constructor
    · rintro ⟨leaf, hleaf, hx | ⟨n, hn, hx⟩⟩
      · exact ⟨leaf, hleaf, hx⟩
      · exact ⟨n, (hentries _ _ (hneeds leaf hleaf)).2 n hn, hx⟩
    · rintro ⟨leaf, hleaf, hx⟩
      exact ⟨leaf, hleaf, .inl hx⟩
  · have hflat : p.dependsOn.flatMap (fun (leaf, needs) =>
          needs.map fun n => (shown n, shown leaf)) =
        p.dependsOn.names.flatMap fun leaf =>
          (p.needs leaf).map fun n => (shown n, shown leaf) := by
      rw [Dict.names, List.flatMap_map]
      refine List.flatMap_congr fun entry hentry => ?_
      rw [(hentries _ _ hentry).1]
    rw [lines_dot, edges_drawing, hflat]
    exact (hnames.flatMap_right _).symm

def quotedLeaves : Document :=
  ⟨[{ name := "b\\", dependsOn := ["say \"hi\""] }, { name := "say \"hi\"" }]⟩

def quotedPlan : Plan where
  order := ["say \"hi\"", "b\\"]
  dependsOn := [("b\\", ["say \"hi\""]), ("say \"hi\"", [])]
  levels := [["say \"hi\""], ["b\\"]]

theorem dot_faithful_quotes :
    Document.read (Text.Utf8.encode "b\\(depends_on\x7bsay \"hi\"\x7d)say \"hi\"()") = .ok quotedLeaves ∧
      quotedLeaves.plan = .ok quotedPlan ∧ quotedPlan.Drawn "a\nb" shown := by
  have hread :
      Document.read (Text.Utf8.encode "b\\(depends_on\x7bsay \"hi\"\x7d)say \"hi\"()") = .ok quotedLeaves :=
    rfl
  have hplan : quotedLeaves.plan = .ok quotedPlan := rfl
  exact ⟨hread, hplan, dot_faithful hread hplan "a\nb"⟩

/-- Two leaves whose names differ in a carriage return alone. -/
def twinLeaves : Document :=
  ⟨[{ name := "a\rb" }, { name := "ab" }]⟩

def twinPlan : Plan where
  order := ["a\rb", "ab"]
  dependsOn := [("a\rb", []), ("ab", [])]
  levels := [["a\rb", "ab"]]

/-- The names of the two are written as one, so the graph does not show the plan as it is. -/
theorem not_drawn_twins :
    Document.read (Text.Utf8.encode "a\rb()\nab()") = .ok twinLeaves ∧
      twinLeaves.plan = .ok twinPlan ∧ ¬ twinPlan.Drawn "plan" id := by
  refine ⟨rfl, rfl, fun h => ?_⟩
  have hsame : shown "a\rb" = shown "ab" := by decide
  have hnames := (h.distinct "a\rb" (by decide) "ab" (by decide)).mp
    ((dotQuote_eq_iff _ _).mpr hsame)
  exact absurd hnames (by decide)

end Plan

end RequestFlow
