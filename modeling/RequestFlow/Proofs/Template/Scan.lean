import Mathlib.Data.List.Induction
import Mathlib.Order.Bounds.Defs
import RequestFlow.Proofs.Template.Token

/-!
# RequestFlow.Proofs.Template.Scan

Tokens are looked for at every place of a text, and a token is replaced where it stands. Both are
compared with a plain scan, which reads from left to right, takes a match whole and goes on behind
it, whatever may start inside.

* `Scan`              — the scan of a text for any set of matches.
* `scan_tokens`       — a plain scan for tokens takes all tokens that stand anywhere.
* `scan_substitute`   — the plain replacement of a token's text replaces the token.
* `tokens_split`      — the names found are in the order of their places.
* `substitute_around` — what stands on either side of a token is replaced on its own.
* `scan_exact`        — the names found in a text, and the text with one of its tokens replaced.
-/

namespace RequestFlow
namespace Template

/-! ## Plain scans -/

inductive Move where
  | pass (c : Char)
  | take (text : List Char)

namespace Move

def taken? : Move → Option (List Char)
  | .pass _ => none
  | .take text => some text

def put (value : List Char) : Move → List Char
  | .pass c => [c]
  | .take _ => value

end Move

/-- A text is read from left to right. Where a match starts it is taken, and the scan goes on behind
it; where none starts, a character is passed over. -/
inductive Scan (Wanted : List Char → Prop) : List Char → List Move → Prop where
  | done : Scan Wanted [] []
  | take {text rest : List Char} {moves : List Move} :
      Wanted text → Scan Wanted rest moves → Scan Wanted (text ++ rest) (.take text :: moves)
  | pass {c : Char} {rest : List Char} {moves : List Move} :
      (∀ text, Wanted text → ¬ text <+: c :: rest) → Scan Wanted rest moves →
      Scan Wanted (c :: rest) (.pass c :: moves)

def taken (moves : List Move) : List (List Char) :=
  moves.filterMap Move.taken?

def replaced (value : List Char) (moves : List Move) : List Char :=
  moves.flatMap (Move.put value)

theorem exists_scan {Wanted : List Char → Prop} (h : ∀ text, Wanted text → text ≠ [])
    (s : List Char) : ∃ moves, Scan Wanted s moves := by
  -- On the length, since a match is taken whole.
  induction hlen : s.length using Nat.strongRecOn generalizing s with
  | ind len ih =>
    cases s with
    | nil => exact ⟨[], .done⟩
    | cons c rest =>
      by_cases hstart : ∃ text, Wanted text ∧ text <+: c :: rest
      · obtain ⟨text, htext, post, hpost⟩ := hstart
        have hshorter : post.length < len := by
          have := List.length_pos_iff.mpr (h text htext)
          rw [← hlen, ← hpost, List.length_append]
          omega
        obtain ⟨moves, hmoves⟩ := ih _ hshorter post rfl
        exact ⟨.take text :: moves, hpost ▸ .take htext hmoves⟩
      · obtain ⟨moves, hmoves⟩ := ih rest.length (by simp [← hlen]) rest rfl
        exact ⟨.pass c :: moves,
          .pass (fun text htext hpre => hstart ⟨text, htext, hpre⟩) hmoves⟩

variable {name other value s pre pre' post post' : List Char} {moves : List Move}

/-- A text has a scan, so what every scan of it comes to is reached, and nothing else is. -/
theorem scan_iff {Wanted : List Char → Prop} {α : Type} {f : List Move → α} {result : α}
    (hne : ∀ text, Wanted text → text ≠ []) (h : ∀ moves, Scan Wanted s moves → f moves = result)
    (x : α) : (∃ moves, Scan Wanted s moves ∧ f moves = x) ↔ x = result := by
  constructor
  · rintro ⟨moves, hmoves, rfl⟩
    exact h moves hmoves
  · rintro rfl
    obtain ⟨moves, hmoves⟩ := exists_scan hne s
    exact ⟨moves, hmoves, h moves hmoves⟩

def IsToken (text : List Char) : Prop :=
  ∃ name, IsName name ∧ text = tokenText name

theorem tokenText_ne_nil (name : List Char) : tokenText name ≠ [] := by
  simp [tokenText]

theorem scan_tokens (h : Scan IsToken s moves) : taken moves = (tokens s).map tokenText := by
  induction h with
  | done => rfl
  | take htext _ ih =>
    obtain ⟨name, hname, rfl⟩ := htext
    rw [tokens_token hname, List.map_cons, ← ih]
    rfl
  | @pass c rest moves hnone _ ih =>
    have hat : tokenAt? (c :: rest) = none :=
      tokenAt?_eq_none.mpr fun name post hname hs => hnone _ ⟨name, hname, rfl⟩ ⟨post, hs.symm⟩
    rw [tokens, hat]
    exact ih

theorem scan_substitute (hname : IsName name) (h : Scan (· = tokenText name) s moves) :
    replaced value moves = substitute name value s := by
  induction h with
  | done => rfl
  | take htext _ ih =>
    subst htext
    rw [substitute_token hname, ← ih]
    rfl
  | @pass c rest moves hnone _ ih =>
    have hat : tokenAt? (c :: rest) ≠ some name := by
      intro hat
      obtain ⟨_, post, hpost⟩ := tokenAt?_eq_some.mp hat
      exact hnone _ rfl ⟨post, hpost.symm⟩
    rw [substitute_other hat, ← ih]
    rfl

/-! ## The order of names -/

def StandsAt (name s : List Char) (i : Nat) : Prop :=
  ∃ pre post, pre.length = i ∧ s = pre ++ (tokenText name ++ post)

/-- The first token of `name` starts before the first one of `other`. -/
def Precedes (s : List Char) (name other : List Char) : Prop :=
  ∃ i j, IsLeast {i | StandsAt name s i} i ∧ IsLeast {j | StandsAt other s j} j ∧ i < j

/-- The names before one that is found are those found before its token. -/
theorem tokens_split {after : List (List Char)} :
    ∀ {before : List (List Char)}, tokens s = before ++ name :: after →
      ∃ pre post, s = pre ++ (tokenText name ++ post) ∧ tokens pre = before := by
  induction s using scan_induction with
  | nil =>
    intro before h
    simp [tokens] at h
  | token name' post hname' ih =>
    intro before h
    rw [tokens_token hname'] at h
    cases before with
    | nil =>
      obtain ⟨rfl, rfl⟩ := List.cons.inj h
      exact ⟨[], post, rfl, rfl⟩
    | cons first before =>
      obtain ⟨rfl, hrest⟩ := List.cons.inj h
      obtain ⟨pre, post', rfl, hpre⟩ := ih hrest
      exact ⟨tokenText name' ++ pre, post', by simp, by rw [tokens_token hname', hpre]⟩
  | char c rest hat ih =>
    intro before h
    rw [tokens, hat] at h
    obtain ⟨pre, post, rfl, hpre⟩ := ih h
    have hpreAt : tokenAt? (c :: pre) = none := by
      refine tokenAt?_eq_none.mpr fun name' mid hname' hmid => ?_
      refine tokenAt?_eq_none.mp hat name' (mid ++ (tokenText name ++ post)) hname' ?_
      rw [← List.cons_append, hmid, List.append_assoc]
    exact ⟨c :: pre, post, rfl, by rw [tokens, hpreAt, ← hpre]⟩

/-- A token does not stand before a place before which it does not occur. -/
theorem stands_after (hname : IsName name) (hother : IsName other) (hnew : ¬ Occurs other pre)
    (heq : pre ++ (tokenText name ++ post) = pre' ++ (tokenText other ++ post')) :
    (pre.length = pre'.length ∧ name = other) ∨ pre.length < pre'.length := by
  rcases tokens_apart hname hother heq with ⟨rfl, rfl, _⟩ | ⟨mid, rfl, _⟩ | ⟨mid, rfl, _⟩
  · exact .inl ⟨rfl, rfl⟩
  · right
    simp [tokenText]
  · exact absurd ⟨hother, pre', mid, by simp⟩ hnew

theorem isLeast_of_new (hname : IsName name) (hnew : ¬ Occurs name pre)
    (hs : s = pre ++ (tokenText name ++ post)) : IsLeast {i | StandsAt name s i} pre.length := by
  refine ⟨⟨pre, post, rfl, hs⟩, ?_⟩
  rintro _ ⟨pre', post', rfl, hs'⟩
  rcases stands_after hname hname hnew (hs.symm.trans hs') with ⟨hlen, _⟩ | hlt
  · exact Nat.le_of_eq hlen
  · exact Nat.le_of_lt hlt

theorem pairwise_eraseDups {α : Type} [BEq α] [LawfulBEq α] (l : List α) :
    l.eraseDups.Pairwise fun a b =>
      ∃ before after, l = before ++ a :: after ∧ a ∉ before ∧ b ∉ a :: before := by
  -- From the end, since a later element takes none of the kept ones away.
  induction l using List.reverseRecOn with
  | nil => simp
  | append_singleton l x ih =>
    have hkept : l.eraseDups.Pairwise fun a b =>
        ∃ before after, l ++ [x] = before ++ a :: after ∧ a ∉ before ∧ b ∉ a :: before := by
      refine ih.imp ?_
      rintro a b ⟨before, after, rfl, ha, hb⟩
      exact ⟨before, after ++ [x], by simp, ha, hb⟩
    rw [List.eraseDups_append]
    by_cases hx : x ∈ l
    · simpa [List.removeAll, hx] using hkept
    · rw [show ([x].removeAll l).eraseDups = [x] by
        simp [List.removeAll, hx, List.eraseDups_cons], List.pairwise_append]
      refine ⟨hkept, by simp, fun a ha b hb => ?_⟩
      obtain rfl := List.mem_singleton.mp hb
      obtain ⟨before, after, rfl, hnew⟩ := List.eq_append_cons_of_mem (List.mem_eraseDups.mp ha)
      refine ⟨before, after ++ [b], by simp, hnew, fun hb' => hx ?_⟩
      simp only [List.mem_append, List.mem_cons] at hb' ⊢
      tauto

theorem exists_first (h : Occurs name s) : ∃ i, IsLeast {i | StandsAt name s i} i := by
  obtain ⟨before, after, hsplit, hnew⟩ := List.eq_append_cons_of_mem (mem_tokens.mpr h)
  obtain ⟨pre, post, hs, rfl⟩ := tokens_split hsplit
  exact ⟨pre.length, isLeast_of_new h.1 (mt mem_tokens.mpr hnew) hs⟩

theorem precedes_of_split {before after : List (List Char)}
    (hsplit : tokens s = before ++ name :: after) (hname : name ∉ before)
    (hother : other ∉ name :: before) (ho : Occurs other s) : Precedes s name other := by
  obtain ⟨pre, post, hs, rfl⟩ := tokens_split hsplit
  rw [List.mem_cons, not_or] at hother
  have hfound : Occurs name s := mem_tokens.mp (by simp [hsplit])
  obtain ⟨j, hj⟩ := exists_first ho
  obtain ⟨pre', post', rfl, hs'⟩ := hj.1
  refine ⟨pre.length, pre'.length, isLeast_of_new hfound.1 (mt mem_tokens.mpr hname) hs, hj, ?_⟩
  rcases stands_after hfound.1 ho.1 (mt mem_tokens.mpr hother.2) (hs.symm.trans hs')
    with ⟨_, rfl⟩ | hlt
  · exact absurd rfl hother.1
  · exact hlt

theorem mem_tokenNames {s name : String} : name ∈ tokenNames s ↔ Occurs name.toList s.toList := by
  rw [tokenNames, List.mem_eraseDups, ← mem_tokens, List.mem_map]
  constructor
  · rintro ⟨name, h, rfl⟩
    rwa [String.toList_ofList]
  · exact fun h => ⟨name.toList, h, String.ofList_toList⟩

theorem tokenNames_ordered (s : String) :
    (tokenNames s).Pairwise fun name other => Precedes s.toList name.toList other.toList := by
  refine (pairwise_eraseDups _).imp_of_mem fun {name other} _ hother h => ?_
  obtain ⟨before, after, hsplit, hname, hlater⟩ := h
  obtain ⟨before, rest, htokens, rfl, hrest⟩ := List.map_eq_append_iff.mp hsplit
  obtain ⟨name, after, rfl, rfl, rfl⟩ := List.map_eq_cons_iff.mp hrest
  rw [String.toList_ofList]
  refine precedes_of_split htokens ?_ ?_ (mem_tokenNames.mp hother)
  · exact fun hmem => hname (List.mem_map_of_mem hmem)
  · intro hmem
    have hmem' := List.mem_map_of_mem (f := String.ofList) hmem
    rw [String.ofList_toList] at hmem'
    exact hlater hmem'

theorem Precedes.ne (h : Precedes s name other) : name ≠ other := by
  rintro rfl
  obtain ⟨i, j, hi, hj, hlt⟩ := h
  exact absurd (hj.2 hi.1) (Nat.not_le.mpr hlt)

/-! ## Replacement -/

theorem tokenAt?_before_token {c : Char} {rest : List Char} (hat : tokenAt? (c :: rest) = none)
    (hother : IsName other) (post : List Char) :
    tokenAt? (c :: (rest ++ (tokenText other ++ post))) = none := by
  refine tokenAt?_eq_none.mpr fun name post' hname hs => ?_
  rcases starts_after hname hother (m := c :: rest) hs.symm with ⟨hnil, _⟩ | ⟨mid, hmid, _⟩
  · cases hnil
  · exact tokenAt?_eq_none.mp hat name mid hname hmid

/-- No token starts before another and ends in it or after it, so what comes before a token is
replaced on its own. -/
theorem substitute_around (hother : IsName other) (pre post : List Char) :
    substitute name value (pre ++ (tokenText other ++ post)) =
      substitute name value pre ++ substitute name value (tokenText other ++ post) := by
  induction pre using scan_induction with
  | nil => rfl
  | token name' post' hname' ih =>
    rw [List.append_assoc]
    by_cases heq : name' = name
    · subst heq
      rw [substitute_token hname', substitute_token hname', ih, List.append_assoc]
    · rw [substitute_token_of_ne hname' heq, substitute_token_of_ne hname' heq, ih,
        List.append_assoc]
  | char c rest hat ih =>
    rw [List.cons_append, substitute_other (by simp [tokenAt?_before_token hat hother]), ih,
      substitute_other (by simp [hat]), List.cons_append]

theorem substitute_of_not_occurs (h : ¬ Occurs name s) : substitute name value s = s := by
  induction s with
  | nil => rfl
  | cons c s ih =>
    rw [occurs_cons, not_or] at h
    rw [substitute_other h.1, ih h.2]

/-! ## Names and replacements -/

/-- What `names` have to be in order to be the names found in `s`. -/
structure Finds (s : String) (names : List String) : Prop where
  complete : ∀ name, name ∈ names ↔ Occurs name.toList s.toList
  distinct : names.Nodup
  ordered : names.Pairwise fun name other => Precedes s.toList name.toList other.toList

/-- What `t` has to be in order to be `s` with `value` in place of the token of `name`. -/
structure Replacement (name value s t : List Char) : Prop where
  /-- The token's text replaced as any text is replaced, from left to right. -/
  plain : ∀ u, (∃ moves, Scan (· = tokenText name) s moves ∧ replaced value moves = u) ↔ u = t
  /-- Wherever the token stands, the value is put. -/
  put : ∀ pre post, s = pre ++ (tokenText name ++ post) →
    t = substitute name value pre ++ (value ++ substitute name value post)
  /-- Wherever another token stands, it stays. -/
  kept : ∀ pre other post, IsName other → other ≠ name → s = pre ++ (tokenText other ++ post) →
    t = substitute name value pre ++ (tokenText other ++ substitute name value post)
  untouched : ¬ Occurs name s → t = s

theorem tokenNames_finds (s : String) : Finds s (tokenNames s) where
  complete _ := mem_tokenNames
  distinct := (tokenNames_ordered s).imp fun h heq => h.ne (congrArg String.toList heq)
  ordered := tokenNames_ordered s

theorem substitute_replacement (hname : IsName name) (value s : List Char) :
    Replacement name value s (substitute name value s) where
  plain := scan_iff (by rintro _ rfl; exact tokenText_ne_nil name)
    fun _ hmoves => scan_substitute hname hmoves
  put := by
    rintro pre post rfl
    rw [substitute_around hname, substitute_token hname]
  kept := by
    rintro pre other post hother hne rfl
    rw [substitute_around hother, substitute_token_of_ne hother hne]
  untouched := substitute_of_not_occurs

theorem containsTokens_iff (s : String) : containsTokens s = true ↔ tokenNames s ≠ [] := by
  simp only [containsTokens, tokenNames]
  cases tokens s.toList with
  | nil => simp
  | cons name names => simp [List.eraseDups_cons]

/-- The names found in a text are those whose tokens stand anywhere in it, each once and in the
order of their first places, and they are what a plain scan for tokens takes. To replace a token is
to replace its text: each place of the token is given the value, and each place of another token
stays as it is. -/
theorem scan_exact (s : String) :
    Finds s (tokenNames s) ∧ (containsTokens s = true ↔ tokenNames s ≠ []) ∧
      (∀ texts, (∃ moves, Scan IsToken s.toList moves ∧ taken moves = texts) ↔
        texts = (tokens s.toList).map tokenText) ∧
      ∀ name value, IsName name →
        Replacement name value s.toList (substitute name value s.toList) :=
  ⟨tokenNames_finds s, containsTokens_iff s,
    scan_iff (by rintro _ ⟨name, _, rfl⟩; exact tokenText_ne_nil name) fun _ => scan_tokens,
    fun _ value hname => substitute_replacement hname value s.toList⟩

theorem scan_exact_adjacent :
    tokenNames "$${a}$\x7b${b}{c}${a}" = ["a", "b"] ∧ IsName ['a'] ∧
      Replacement ['a'] ['$'] "$${a}$\x7b${b}{c}${a}".toList "$$$\x7b${b}{c}$".toList := by
  have hname : IsName ['a'] := ⟨by simp, by simp [isBrace]⟩
  obtain ⟨-, -, -, hreplace⟩ := scan_exact "$${a}$\x7b${b}{c}${a}"
  exact ⟨by decide, hname, hreplace ['a'] ['$'] hname⟩

end Template
end RequestFlow
