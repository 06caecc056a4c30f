import RequestFlow.Proofs.Template.Token
import RequestFlow.Template.Expand

/-!
# RequestFlow.Proofs.Template.Simultaneous

Texts in which every brace belongs to a token, with values that bring no braces of their own. No
replacement makes up a token in such a text, so each pass does away with one name, and the passes
come to what one replacement of all tokens at once comes to.

* `Part`                 — a character that is no brace, or a token.
* `exists_parts`         — a text without stray braces is written as parts, in one way only.
* `expandFrom_parts`     — the passes suffice just if there are more of them than names.
* `expand_simultaneous`  — the expansion of such a text.
* `not_atOnce_signs` — with as many names as passes, the last pass is not seen to be the last.
-/

namespace RequestFlow
namespace Template

/-- Every brace of `s` stands in a token. -/
def BracesInTokens (s : List Char) : Prop :=
  ∀ before b after, s = before ++ b :: after → isBrace b = true →
    ∃ pre name post, IsName name ∧ s = pre ++ (tokenText name ++ post) ∧
      pre.length ≤ before.length ∧ before.length < pre.length + (tokenText name).length

/-- What a text without stray braces is written with. -/
inductive Part where
  | char (c : Char) (plain : isBrace c = false)
  | token (name : List Char) (isName : IsName name)

namespace Part

def text : Part → List Char
  | .char c _ => [c]
  | .token name _ => tokenText name

def name? : Part → Option (List Char)
  | .char _ _ => none
  | .token name _ => some name

def filled (vars : Vars) : Part → List Char
  | .char c _ => [c]
  | .token name _ =>
    match vars.get? (String.ofList name) with
    | some (.str value) => value.toList
    | _ => tokenText name

end Part

def spelled (parts : List Part) : List Char :=
  parts.flatMap Part.text

/-- All tokens replaced at once. -/
def filled (vars : Vars) (parts : List Part) : List Char :=
  parts.flatMap (Part.filled vars)

def namesOf (parts : List Part) : List (List Char) :=
  parts.filterMap Part.name?

variable {vars : Vars} {mode : Mode} {source : String} {name s : List Char} {parts : List Part}

theorem spelled_cons (p : Part) (parts : List Part) :
    spelled (p :: parts) = p.text ++ spelled parts := rfl

theorem spelled_append (ps qs : List Part) : spelled (ps ++ qs) = spelled ps ++ spelled qs :=
  List.flatMap_append

theorem filled_cons (p : Part) (parts : List Part) :
    filled vars (p :: parts) = p.filled vars ++ filled vars parts := rfl

theorem filled_append (ps qs : List Part) :
    filled vars (ps ++ qs) = filled vars ps ++ filled vars qs :=
  List.flatMap_append

theorem namesOf_append (ps qs : List Part) : namesOf (ps ++ qs) = namesOf ps ++ namesOf qs :=
  List.filterMap_append

/-! ## One way of writing -/

theorem spelled_ne_brace (parts : List Part) (rest : List Char) : spelled parts ≠ '{' :: rest := by
  intro h
  cases parts with
  | nil => cases h
  | cons p parts =>
    cases p with
    | char c plain =>
      obtain rfl : c = '{' := (List.cons.inj h).1
      cases plain
    | token name _ => cases (List.cons.inj h).1

/-- A plain character starts no token: the next part would have to start with a brace. -/
theorem tokenAt?_char (c : Char) (parts : List Part) : tokenAt? (c :: spelled parts) = none :=
  tokenAt?_eq_none.mpr fun _ _ _ h => spelled_ne_brace parts _ (List.cons.inj h).2

theorem spelled_inj {ps qs : List Part} (h : spelled ps = spelled qs) : ps = qs := by
  induction ps generalizing qs with
  | nil =>
    cases qs with
    | nil => rfl
    | cons q qs => cases q <;> cases h
  | cons p ps ih =>
    cases qs with
    | nil => cases p <;> cases h
    | cons q qs =>
      cases p with
      | char c hc =>
        cases q with
        | char d hd =>
          obtain ⟨rfl, hrest⟩ := List.cons.inj h
          rw [ih hrest]
        | token name hname =>
          have hat := tokenAt?_char c ps
          rw [spelled_cons, spelled_cons] at h
          rw [show c :: spelled ps = tokenText name ++ spelled qs from h,
            tokenAt?_tokenText hname] at hat
          cases hat
      | token name hname =>
        cases q with
        | char d hd =>
          have hat := tokenAt?_char d qs
          rw [show d :: spelled qs = tokenText name ++ spelled ps from h.symm,
            tokenAt?_tokenText hname] at hat
          cases hat
        | token name' hname' =>
          obtain ⟨rfl, hrest⟩ := tokenText_inj hname hname' h
          rw [ih hrest]

theorem BracesInTokens.after_token (hname : IsName name) {post : List Char}
    (h : BracesInTokens (tokenText name ++ post)) : BracesInTokens post := by
  intro before b after hb hbrace
  obtain ⟨pre, name', post', hname', heq, hle, hlt⟩ :=
    h (tokenText name ++ before) b after (by rw [hb, List.append_assoc]) hbrace
  have heq' : [] ++ (tokenText name ++ post) = pre ++ (tokenText name' ++ post') := heq
  rw [List.length_append] at hle hlt
  rcases tokens_apart hname hname' heq' with ⟨rfl, rfl, _⟩ | ⟨mid, rfl, hpost⟩ | ⟨mid, hnil, _⟩
  · rw [List.length_nil] at hlt
    omega
  · refine ⟨mid, name', post', hname', hpost, ?_, ?_⟩
    · simpa using hle
    · simp only [List.nil_append, List.length_append] at hlt
      omega
  · simp [tokenText] at hnil

theorem BracesInTokens.after_char {c : Char} {rest : List Char} (hat : tokenAt? (c :: rest) = none)
    (h : BracesInTokens (c :: rest)) : isBrace c = false ∧ BracesInTokens rest := by
  have hstarts {name post : List Char} (hname : IsName name)
      (heq : c :: rest = [] ++ (tokenText name ++ post)) : False := by
    rw [heq, List.nil_append, tokenAt?_tokenText hname] at hat
    cases hat
  constructor
  · by_contra hbrace
    obtain ⟨pre, name, post, hname, heq, hle, _⟩ := h [] c rest rfl (by simpa using hbrace)
    obtain rfl : pre = [] := List.eq_nil_of_length_eq_zero (Nat.le_zero.mp hle)
    exact hstarts hname heq
  · intro before b after hb hbrace
    obtain ⟨pre, name, post, hname, heq, hle, hlt⟩ :=
      h (c :: before) b after (by rw [hb, List.cons_append]) hbrace
    cases pre with
    | nil => exact absurd heq (hstarts hname)
    | cons d pre =>
      refine ⟨pre, name, post, hname, (List.cons.inj heq).2, ?_, ?_⟩
      · simpa using hle
      · simp only [List.length_cons] at hlt
        omega

theorem exists_parts (h : BracesInTokens s) : ∃ parts, spelled parts = s := by
  induction s using scan_induction with
  | nil => exact ⟨[], rfl⟩
  | token name post hname ih =>
    obtain ⟨parts, rfl⟩ := ih (h.after_token hname)
    exact ⟨.token name hname :: parts, rfl⟩
  | char c rest hat ih =>
    obtain ⟨hc, hrest⟩ := h.after_char hat
    obtain ⟨parts, rfl⟩ := ih hrest
    exact ⟨.char c hc :: parts, rfl⟩

theorem bracesInTokens_spelled (parts : List Part) : BracesInTokens (spelled parts) := by
  induction parts with
  | nil =>
    intro before b after hb _
    cases before <;> cases hb
  | cons p parts ih =>
    intro before b after hb hbrace
    by_cases hp : before.length < p.text.length
    · cases p with
      | char c plain =>
        obtain rfl : before = [] := List.eq_nil_of_length_eq_zero (Nat.lt_one_iff.mp hp)
        obtain rfl := (List.cons.inj hb).1
        rw [plain] at hbrace
        cases hbrace
      | token name hname =>
        exact ⟨[], name, spelled parts, hname, rfl, Nat.zero_le _, by simpa [Part.text] using hp⟩
    · obtain ⟨before', rfl⟩ : p.text <+: before := List.prefix_of_prefix_length_le
        (List.prefix_append ..) (hb ▸ List.prefix_append ..) (Nat.not_lt.mp hp)
      rw [spelled_cons, List.append_assoc] at hb
      obtain ⟨pre, name, post, hname, heq, hle, hlt⟩ :=
        ih before' b after (List.append_cancel_left hb) hbrace
      refine ⟨p.text ++ pre, name, post, hname, ?_, ?_, ?_⟩
      · rw [spelled_cons, heq, List.append_assoc]
      · simpa using hle
      · simp only [List.length_append]
        omega

/-! ## The tokens of a written text -/

theorem tokens_spelled (parts : List Part) : tokens (spelled parts) = namesOf parts := by
  induction parts with
  | nil => rfl
  | cons p parts ih =>
    cases p with
    | char c plain =>
      rw [spelled_cons, Part.text, List.singleton_append, tokens, tokenAt?_char, ih]
      rfl
    | token name hname =>
      rw [spelled_cons, Part.text, tokens_token hname, ih]
      rfl

/-! ## One pass -/

theorem exists_plain {value : List Char} (h : ∀ c ∈ value, isBrace c = false) (vars : Vars) :
    ∃ parts, spelled parts = value ∧ namesOf parts = [] ∧ filled vars parts = value := by
  induction value with
  | nil => exact ⟨[], rfl, rfl, rfl⟩
  | cons c value ih =>
    rw [List.forall_mem_cons] at h
    obtain ⟨parts, hspelled, hnames, hfilled⟩ := ih h.2
    exact ⟨.char c h.1 :: parts, congrArg (c :: ·) hspelled, hnames, congrArg (c :: ·) hfilled⟩

/-- A pass takes its name away and adds none, and changes nothing for the names that are left. -/
theorem exists_substituted {value : String}
    (hvalue : vars.get? (String.ofList name) = some (.str value))
    (hplain : ∀ c ∈ value.toList, isBrace c = false) (parts : List Part) :
    ∃ parts', spelled parts' = substitute name value.toList (spelled parts) ∧
      namesOf parts' = (namesOf parts).filter (· ≠ name) ∧
      filled vars parts' = filled vars parts := by
  induction parts with
  | nil => exact ⟨[], rfl, rfl, rfl⟩
  | cons p parts ih =>
    obtain ⟨parts', hspelled, hnames, hfilled⟩ := ih
    cases p with
    | char c plain =>
      refine ⟨.char c plain :: parts', ?_, hnames, congrArg (c :: ·) hfilled⟩
      have hat : tokenAt? (c :: spelled parts) ≠ some name := by
        rw [tokenAt?_char]
        simp
      rw [spelled_cons, hspelled]
      exact (substitute_other hat value.toList).symm
    | token name' hname' =>
      by_cases heq : name' = name
      · subst heq
        obtain ⟨put, hput, hputNames, hputFilled⟩ := exists_plain hplain vars
        refine ⟨put ++ parts', ?_, ?_, ?_⟩
        · rw [spelled_append, hput, hspelled, spelled_cons, Part.text, substitute_token hname']
        · rw [namesOf_append, hputNames, hnames]
          simp [namesOf, Part.name?]
        · rw [filled_append, hputFilled, hfilled, filled_cons]
          simp only [Part.filled, hvalue]
      · refine ⟨.token name' hname' :: parts', ?_, ?_, congrArg (_ ++ ·) hfilled⟩
        · rw [spelled_cons, spelled_cons, hspelled, Part.text]
          exact (substitute_token_of_ne hname' heq ..).symm
        · simpa [namesOf, Part.name?, heq] using hnames

/-! ## All passes -/

def distinct (names : List (List Char)) : Nat :=
  (names.map String.ofList).eraseDups.length

theorem distinct_cons (name : List Char) (names : List (List Char)) :
    distinct (name :: names) = distinct ((name :: names).filter (· ≠ name)) + 1 := by
  have hfilter : (names.map String.ofList).filter (fun other => !other == String.ofList name) =
      (names.filter (· ≠ name)).map String.ofList := by
    rw [List.filter_map]
    congr 1
    refine List.filter_congr fun other _ => ?_
    rw [Bool.eq_iff_iff]
    simp [String.ofList_inj]
  rw [List.filter_cons_of_neg (by simp), distinct, distinct, List.map_cons, List.eraseDups_cons,
    hfilter, List.length_cons]

/-- Every name is bound to a text without braces. -/
def Closed (vars : Vars) (names : List (List Char)) : Prop :=
  ∀ name ∈ names, ∃ value, vars.get? (String.ofList name) = some (.str value) ∧
    ∀ c ∈ value.toList, isBrace c = false

theorem filled_of_no_names (h : namesOf parts = []) : filled vars parts = spelled parts := by
  induction parts with
  | nil => rfl
  | cons p parts ih =>
    cases p with
    | char c plain => exact congrArg (c :: ·) (ih h)
    | token name hname => cases h

/-- One pass for each name, and one more that finds none. -/
theorem expandFrom_parts {passes : Nat} :
    ∀ {parts : List Part}, Closed vars (namesOf parts) →
      expandFrom vars mode source passes [] (spelled parts) =
        if distinct (namesOf parts) < passes then .ok (filled vars parts)
        else .error (.expansionLimit source) := by
  induction passes with
  | zero => intro parts _; rfl
  | succ passes ih =>
    intro parts hclosed
    simp only [expandFrom, tokens_spelled]
    cases hnames : namesOf parts with
    | nil =>
      rw [filled_of_no_names hnames]
      rfl
    | cons name names =>
      rw [hnames] at hclosed
      obtain ⟨value, hvalue, hplain⟩ := hclosed name List.mem_cons_self
      obtain ⟨parts', hspelled, hnames', hfilled⟩ := exists_substituted hvalue hplain parts
      rw [hnames] at hnames'
      have hclosed' : Closed vars (namesOf parts') := by
        rw [hnames']
        exact fun other hother => hclosed other (List.mem_of_mem_filter hother)
      have hfirst : (name :: names).find? (!List.contains [] ·) = some name := rfl
      simp only [hfirst, hvalue]
      rw [← hspelled, ih hclosed', hfilled, hnames', distinct_cons]
      simp only [Nat.add_lt_add_iff_right]

/-- A text without stray braces whose names are bound to texts without braces expands to the text
with all tokens replaced at once, as long as it has fewer names than there are passes. From as many
names as passes on, its expansion fails. -/
theorem expand_simultaneous {vars : Vars} {s : String} (hs : BracesInTokens s.toList)
    (hvars : ∀ name ∈ tokenNames s, ∃ value, vars.get? name = some (.str value) ∧
      ∀ c ∈ value.toList, isBrace c = false) :
    ∃ parts, spelled parts = s.toList ∧ (∀ parts', spelled parts' = s.toList → parts' = parts) ∧
      ((tokenNames s).length < passLimit →
        expand vars .strict s = .ok (String.ofList (filled vars parts))) ∧
      (passLimit ≤ (tokenNames s).length →
        expand vars .strict s = .error (.expansionLimit s)) := by
  obtain ⟨parts, hparts⟩ := exists_parts hs
  have hnames : tokenNames s = ((namesOf parts).map String.ofList).eraseDups := by
    rw [tokenNames, ← hparts, tokens_spelled]
  have hclosed : Closed vars (namesOf parts) := by
    intro name hname
    refine hvars _ ?_
    rw [hnames, List.mem_eraseDups]
    exact List.mem_map_of_mem hname
  have hcount : (tokenNames s).length = distinct (namesOf parts) := by
    rw [hnames, distinct]
  refine ⟨parts, hparts, fun parts' h => spelled_inj (h.trans hparts.symm), fun h => ?_,
    fun h => ?_⟩
  · rw [hcount] at h
    rw [expand, ← hparts, expandFrom_parts hclosed, if_pos h]
  · rw [hcount] at h
    rw [expand, ← hparts, expandFrom_parts hclosed, if_neg (Nat.not_lt.mpr h)]

theorem plain_of_all (h : s.all (!isBrace ·) = true) : ∀ c ∈ s, isBrace c = false := by
  simpa using h

def Part.single (c : Char) (h : isBrace c = false) : Part :=
  .token [c] ⟨by simp, by simpa using h⟩

def threeTokens : List Part :=
  [.char 'a' rfl, .single 'x' rfl, .char '$' rfl, .single 'y' rfl, .single 'x' rfl]

theorem expand_simultaneous_threeTokens :
    BracesInTokens "a${x}$${y}${x}".toList ∧
      expand [("x", .str "1$"), ("y", .str "2")] .strict "a${x}$${y}${x}" = .ok "a1$$21$" := by
  have hs : BracesInTokens "a${x}$${y}${x}".toList := bracesInTokens_spelled threeTokens
  have hvars : ∀ name ∈ tokenNames "a${x}$${y}${x}",
      ∃ value, Dict.get? [("x", Json.str "1$"), ("y", .str "2")] name = some (.str value) ∧
        ∀ c ∈ value.toList, isBrace c = false := by
    have hnames : tokenNames "a${x}$${y}${x}" = ["x", "y"] := by decide
    rw [hnames, List.forall_mem_cons, List.forall_mem_singleton]
    exact ⟨⟨"1$", rfl, plain_of_all rfl⟩, ⟨"2", rfl, plain_of_all rfl⟩⟩
  obtain ⟨parts, _, hunique, hok, _⟩ := expand_simultaneous hs hvars
  obtain rfl := hunique threeTokens rfl
  exact ⟨hs, hok (by decide)⟩

/-! ## As many names as passes -/

section Signs

variable {chars : List Char} {value : String}

def tokensFor (chars : List Char) (h : ∀ c ∈ chars, isBrace c = false) : List Part :=
  chars.pmap Part.single h

def valuesFor (chars : List Char) (value : String) : Vars :=
  chars.map fun c => (String.ofList [c], .str value)

theorem namesOf_tokensFor (h : ∀ c ∈ chars, isBrace c = false) :
    namesOf (tokensFor chars h) = chars.map ([·]) := by
  induction chars with
  | nil => rfl
  | cons c rest ih =>
    rw [List.forall_mem_cons] at h
    exact congrArg ([c] :: ·) (ih h.2)

theorem get?_valuesFor {c : Char} (h : c ∈ chars) :
    (valuesFor chars value).get? (String.ofList [c]) = some (.str value) := by
  induction chars with
  | nil => cases h
  | cons d rest ih =>
    rw [valuesFor, List.map_cons, Dict.get?_cons]
    split
    · rfl
    · rename_i hne
      rcases List.mem_cons.mp h with rfl | h
      · exact absurd rfl hne
      · exact ih h

end Signs

def signs : List Char :=
  "-0123456789ABCDEFGHIJKLMNOPQRSTUVWXYZ_abcdefghijklmnopqrstuvwxyz".toList

theorem signs_plain : ∀ c ∈ signs, isBrace c = false :=
  plain_of_all (by decide)

def signText : String :=
  String.ofList (spelled (tokensFor signs signs_plain))

theorem tokenNames_signText :
    tokenNames signText = (signs.map fun c => String.ofList [c]).eraseDups := by
  rw [tokenNames, signText, String.toList_ofList, tokens_spelled, namesOf_tokensFor, List.map_map]
  rfl

/-- Every name is bound to a text without `$` and braces, and there are as many as passes: each pass
does away with one of them, and none is left to find that nothing remains to be done. -/
theorem not_atOnce_signs :
    BracesInTokens signText.toList ∧ (tokenNames signText).length = passLimit ∧
      (∀ name ∈ tokenNames signText, (valuesFor signs "x").get? name = some (.str "x")) ∧
      expand (valuesFor signs "x") .strict signText = .error (.expansionLimit signText) := by
  have hclosed : Closed (valuesFor signs "x") (namesOf (tokensFor signs signs_plain)) := by
    rw [namesOf_tokensFor]
    exact List.forall_mem_map.mpr fun c hc => ⟨"x", get?_valuesFor hc, plain_of_all rfl⟩
  have hcount : distinct (namesOf (tokensFor signs signs_plain)) = passLimit := by
    decide +kernel
  refine ⟨?_, ?_, ?_, ?_⟩
  · rw [signText, String.toList_ofList]
    exact bracesInTokens_spelled _
  · rw [tokenNames, signText, String.toList_ofList, tokens_spelled]
    exact hcount
  · intro name hname
    rw [tokenNames_signText, List.mem_eraseDups] at hname
    obtain ⟨c, hc, rfl⟩ := List.mem_map.mp hname
    exact get?_valuesFor hc
  · rw [expand, signText, String.toList_ofList, expandFrom_parts hclosed, hcount,
      if_neg (Nat.lt_irrefl _)]

end Template
end RequestFlow
