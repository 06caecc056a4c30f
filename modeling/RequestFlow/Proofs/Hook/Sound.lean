import RequestFlow.Proofs.Hook.Grammar

/-!
# RequestFlow.Proofs.Hook.Sound

What the expression parsers read is a phrase of the grammar, and the node they return is its
tree. There is one lemma for each parser; the parsers of parts are known by `Sound` alone.
-/

namespace RequestFlow.Hook

/-- A node's height is that of its tree, and it is not too high. -/
structure Node.Within (limit : Nat) (node : Node) : Prop where
  height_eq : node.height = node.expr.height
  le : node.height ≤ limit

/-- Whatever `p` reads is a phrase, whose tree it returns with its height. -/
def Sound (limit : Nat) (p : Parser) (P : Phrase) : Prop :=
  ∀ d ts node rest, p (0 < d) ts = .ok (node, rest) →
    ∃ used, Reads d ts used d rest ∧ P (used.map (·.tok)) node.expr ∧ node.Within limit

theorem over_ok {limit below : Nat} {e : Expr} {node : Node} {rest rest' : List Token} :
    Node.over limit e below rest = .ok (node, rest') ↔
      below + 1 ≤ limit ∧ node = ⟨e, below + 1⟩ ∧ rest' = rest := by
  rw [Node.over]
  split
  · simp
    omega
  · simp [eq_comm]
    omega

section

variable {limit d : Nat} {part : Parser} {Part : Phrase}
variable {joint? : Tok → Option Joint} {Sign : Tok → Joint → Prop}

/-- The phrase that has been read so far grows by a sign and a part in each step. -/
theorem joinMore_sound (hj : Joins joint? Sign) (hp : Sound limit part Part) {steps : Nat}
    {lhs node : Node} {ts rest : List Token} {l : List Tok}
    (h : joinMore limit joint? part (0 < d) steps lhs ts = .ok (node, rest))
    (hl : Chained Sign Part l lhs.expr) (hlhs : lhs.Within limit) :
    ∃ used, Reads d ts used d rest ∧ Chained Sign Part (l ++ used.map (·.tok)) node.expr ∧
      node.Within limit := by
  induction steps generalizing lhs ts l with
  | zero =>
    cases h
    exact ⟨[], .refl d _, by simpa using hl, hlhs⟩
  | succ steps ih =>
    simp only [joinMore] at h
    have hskip := Reads.skip d ts
    split at h
    · rename_i hnil
      cases h
      rw [hnil] at hskip
      exact ⟨[], hskip, by simpa using hl, hlhs⟩
    · rename_i t more hcons
      split at h
      · cases h
        rw [hcons] at hskip
        exact ⟨[], hskip, by simpa using hl, hlhs⟩
      · rename_i join hjoin
        have hsign := (hj.found _ _).mp hjoin
        have htoken := Reads.token hcons
        rw [hj.depth _ _ hsign] at htoken
        split at h
        · cases h
        · rename_i rhs more' hread
          obtain ⟨u, hu, hphrase, hrhs⟩ := hp d _ _ _ hread
          split at h
          · cases h
          · rename_i node' more'' hover
            obtain ⟨hle, rfl, rfl⟩ := over_ok.mp hover
            have hchain : Chained Sign Part (l ++ t.tok :: u.map (·.tok))
                (join lhs.expr rhs.expr) := .more hl hsign hphrase
            obtain ⟨v, hv, hrest⟩ := ih h hchain
              ⟨by rw [hj.height _ _ hsign, hlhs.height_eq, hrhs.height_eq], hle⟩
            refine ⟨[t] ++ u ++ v, (htoken.trans hu (.inl rfl)).trans hv (.inl rfl), ?_⟩
            simpa using hrest

/-- A part and the parts that follow it, as many as `steps` allows for the tokens left. -/
def joined (limit : Nat) (joint? : Tok → Option Joint) (part : Parser)
    (steps : List Token → Nat) : Parser := fun nested ts =>
  match part nested ts with
  | .error e => .error e
  | .ok (lhs, rest) => joinMore limit joint? part nested (steps rest) lhs rest

theorem joined_sound (hj : Joins joint? Sign) (hp : Sound limit part Part)
    (steps : List Token → Nat) :
    Sound limit (joined limit joint? part steps) (Chained Sign Part) := by
  intro d ts node rest h
  simp only [joined] at h
  split at h
  · cases h
  · rename_i lhs more hread
    obtain ⟨u, hu, hphrase, hwithin⟩ := hp d _ _ _ hread
    obtain ⟨v, hv, hrest⟩ := joinMore_sound hj hp h (.one hphrase) hwithin
    exact ⟨u ++ v, hu.trans hv (.inl rfl), by simpa using hrest⟩

theorem chain_sound (hj : Joins joint? Sign) (hp : Sound limit part Part) :
    Sound limit (chain limit joint? part) (Chained Sign Part) :=
  joined_sound hj hp List.length

theorem comparison_sound (hp : Sound limit part Part) :
    Sound limit (comparison limit part) (Paired Compares Part) := by
  intro d ts node rest h
  simp only [comparison] at h
  split at h
  · cases h
  · rename_i lhs more hread
    obtain ⟨u, hu, hphrase, hlhs⟩ := hp d _ _ _ hread
    have hskip := hu.trans (.skip d more) (.inl rfl)
    rw [List.append_nil] at hskip
    split at h
    · rename_i hnil
      cases h
      rw [hnil] at hskip
      exact ⟨u, hskip, .one hphrase, hlhs⟩
    · rename_i t more' hcons
      split at h
      · cases h
        rw [hcons] at hskip
        exact ⟨u, hskip, .one hphrase, hlhs⟩
      · rename_i join hjoin
        have hsign := (joins_comparison.found _ _).mp hjoin
        have htoken := Reads.token hcons
        rw [joins_comparison.depth _ _ hsign] at htoken
        split at h
        · cases h
        · rename_i rhs more'' hread
          obtain ⟨v, hv, hrphrase, hrhs⟩ := hp d _ _ _ hread
          split at h
          · cases h
          · obtain ⟨hle, rfl, rfl⟩ := over_ok.mp h
            have hall := ((hu.trans htoken (.inl rfl)).trans hv (.inl rfl)).trans
              (.skip d more'') (.inl rfl)
            refine ⟨u ++ [t] ++ v ++ [], hall, ?_, ?_, hle⟩
            · simpa using Paired.two hphrase hsign hrphrase
            · rw [joins_comparison.height _ _ hsign, hlhs.height_eq, hrhs.height_eq]

theorem disjunction_sound (hp : Sound limit part Part) :
    Sound limit (disjunction limit part) (Expression Part) :=
  chain_sound joins_or (chain_sound joins_and (comparison_sound (chain_sound joins_additive hp)))

end

/-! ## Brackets -/

theorem Sound.inside {limit : Nat} {p : Parser} {P : Phrase} (hp : Sound limit p P) (d : Nat)
    {ts rest : List Token} {node : Node} (h : p true ts = .ok (node, rest)) :
    ∃ used, Reads (d + 1) ts used (d + 1) rest ∧ P (used.map (·.tok)) node.expr ∧
      node.Within limit :=
  hp (d + 1) ts node rest (by simpa using h)

/-- The parser for what stands inside brackets, if there may be any. -/
def SoundInside (limit : Nat) (inner : Option Parser) (Inner : Option Phrase) : Prop :=
  ∀ p ∈ inner, ∃ P ∈ Inner, Sound limit p P

section

variable {limit d : Nat} {inner : Option Parser} {Inner : Option Phrase} {P : Phrase}

theorem closing_sound {α : Type} {closer : Tok} {mark : Char} (hcloser : after (d + 1) closer = d)
    {a b : α} {ts rest : List Token} (h : closing closer mark a ts = .ok (b, rest)) :
    b = a ∧ ∃ t, Reads (d + 1) ts [t] d rest ∧ t.tok = closer := by
  simp only [closing] at h
  split at h
  · cases h
  · rename_i t more hcons
    split at h
    · rename_i htok
      cases h
      have htoken := Reads.token_inside (d := d) hcons
      rw [htok, hcloser] at htoken
      exact ⟨rfl, t, htoken, htok⟩
    · cases h

theorem enclosed_sound (hi : SoundInside limit inner Inner) {closer : Tok} {mark : Char}
    (hcloser : after (d + 1) closer = d) {ts rest : List Token} {node : Node}
    (h : enclosed inner closer mark ts = .ok (node, rest)) :
    ∃ P ∈ Inner, ∃ used t, Reads (d + 1) ts (used ++ [t]) d rest ∧ t.tok = closer ∧
      P (used.map (·.tok)) node.expr ∧ node.Within limit := by
  simp only [enclosed] at h
  split at h
  · cases h
  · rename_i p
    split at h
    · cases h
    · rename_i node' more hnode
      obtain ⟨P, hP, hp⟩ := hi p rfl
      obtain ⟨u, hu, hphrase, hwithin⟩ := hp.inside d hnode
      obtain ⟨rfl, t, ht, htok⟩ := closing_sound hcloser h
      exact ⟨P, hP, u, t, hu.trans ht (.inr (by simp)), htok, hphrase, hwithin⟩

theorem moreArguments_sound {p : Parser} (hp : Sound limit p P) {steps : Nat}
    {args all : List Node} {ts rest : List Token}
    (h : moreArguments p steps args ts = .ok (all, rest)) :
    ∃ used more, Reads (d + 1) ts used (d + 1) rest ∧ all = args.reverse ++ more ∧
      (∀ a ∈ more, a.Within limit) ∧
      (used.map (·.tok) = [] ∧ more = [] ∨
        ∃ l, used.map (·.tok) = .comma :: l ∧ Listed P l (more.map (·.expr))) := by
  induction steps generalizing args ts with
  | zero =>
    cases h
    exact ⟨[], [], .refl _ _, by simp, by simp, .inl ⟨rfl, rfl⟩⟩
  | succ steps ih =>
    simp only [moreArguments] at h
    have hskip := Reads.skip_inside d ts
    split at h
    · rename_i hnil
      cases h
      rw [hnil] at hskip
      exact ⟨[], [], hskip, by simp, by simp, .inl ⟨rfl, rfl⟩⟩
    · rename_i t more hcons
      split at h
      · rename_i hcomma
        have htoken := Reads.token_inside (d := d) hcons
        rw [hcomma] at htoken
        split at h
        · cases h
        · rename_i arg more' harg
          obtain ⟨u, hu, hphrase, hwithin⟩ := hp.inside d harg
          obtain ⟨v, nodes, hv, rfl, hnodes, hrest⟩ := ih h
          refine ⟨[t] ++ u ++ v, arg :: nodes, (htoken.trans hu (.inl rfl)).trans hv (.inl rfl),
            by simp, ?_, .inr ⟨u.map (·.tok) ++ v.map (·.tok), by simp [hcomma], ?_⟩⟩
          · intro a ha
            rcases List.mem_cons.mp ha with rfl | ha
            · exact hwithin
            · exact hnodes a ha
          · rcases hrest with ⟨hv, rfl⟩ | ⟨l, hv, hlisted⟩
            · rw [hv, List.append_nil]
              exact .one hphrase
            · rw [hv]
              exact .more hphrase hlisted
      · cases h
        rw [hcons] at hskip
        exact ⟨[], [], hskip, by simp, by simp, .inl ⟨rfl, rfl⟩⟩

theorem argumentList_sound {p : Parser} (hp : Sound limit p P) {args : List Node}
    {ts rest : List Token} (h : argumentList p ts = .ok (args, rest)) :
    ∃ used, Reads (d + 1) ts used (d + 1) rest ∧
      Arguments P (used.map (·.tok)) (args.map (·.expr)) ∧
      ∀ a ∈ args, a.Within limit := by
  simp only [argumentList] at h
  have hskip := Reads.skip_inside d ts
  split at h
  · cases h
    exact ⟨[], hskip, .none, by simp⟩
  · split at h
    · cases h
    · rename_i arg more harg
      obtain ⟨u, hu, hphrase, hwithin⟩ := hp.inside d harg
      obtain ⟨v, nodes, hv, rfl, hnodes, hrest⟩ := moreArguments_sound hp h
      refine ⟨[] ++ u ++ v, (hskip.trans hu (.inl rfl)).trans hv (.inl rfl), .some ?_, ?_⟩
      · rcases hrest with ⟨hv, rfl⟩ | ⟨l, hv, hlisted⟩
        · simpa [hv] using Listed.one hphrase
        · simpa [hv] using Listed.more hphrase hlisted
      · intro a ha
        rcases List.mem_cons.mp ha with rfl | ha
        · exact hwithin
        · exact hnodes a ha

theorem arguments_sound (hi : SoundInside limit inner Inner) {ts rest : List Token}
    {args : List Node} (h : arguments inner ts = .ok (args, rest)) :
    ∃ P ∈ Inner, ∃ used t, Reads (d + 1) ts (used ++ [t]) d rest ∧ t.tok = .rparen ∧
      Arguments P (used.map (·.tok)) (args.map (·.expr)) ∧
      ∀ a ∈ args, a.Within limit := by
  simp only [arguments] at h
  split at h
  · cases h
  · rename_i p
    split at h
    · cases h
    · rename_i args' more hargs
      obtain ⟨P, hP, hp⟩ := hi p rfl
      obtain ⟨u, hu, hphrase, hheights⟩ := argumentList_sound (d := d) hp hargs
      obtain ⟨rfl, t, ht, htok⟩ := closing_sound rfl h
      exact ⟨P, hP, u, t, hu.trans ht (.inr (by simp)), htok, hphrase, hheights⟩

end

/-! ## Values and operands -/

section

variable {setting : Setting} {inner : Option Parser} {Inner : Option Phrase}

theorem call_sound (hi : SoundInside setting.limits.height inner Inner) {d : Nat} {name : String}
    {t : Token} {ts rest : List Token} {node : Node}
    (h : call setting inner name (t :: ts) = .ok (node, rest)) :
    ∃ used t', Reads (d + 1) ts (used ++ [t']) d rest ∧ t'.tok = .rparen ∧
      Value setting.side setting.libraries Inner
        (.ident name :: .lparen :: (used.map (·.tok) ++ [.rparen])) node.expr ∧
      node.Within setting.limits.height := by
  simp only [call] at h
  split at h
  · cases h
  · rename_i f hf
    split at h
    · rename_i hlibrary
      split at h
      · cases h
      · rename_i args more hargs
        obtain ⟨P, hP, u, t', hu, htok, hphrase, hheights⟩ := arguments_sound (d := d) hi hargs
        split at h
        · rename_i harity
          obtain ⟨hle, rfl, rfl⟩ := over_ok.mp h
          refine ⟨u, t', hu, htok, ?_, ?_, hle⟩
          · rw [← (Function.ofName?_iff name f).mp hf]
            exact .call (by simpa using hlibrary) hP hphrase (by simpa using harity)
          · show (args.map (·.height)).foldl max 0 + 1 = _
            rw [foldl_heights (fun a ha => (hheights a ha).height_eq), Nat.zero_max, Expr.height]
        · cases h
    · cases h

theorem single_sound (hi : SoundInside setting.limits.height inner Inner) :
    Sound setting.limits.height (single setting inner)
      (Value setting.side setting.libraries Inner) := by
  intro d ts node rest h
  have hpos : 1 ≤ setting.limits.height := setting.limits.height_pos
  simp only [single] at h
  split at h
  · cases h
  · rename_i t more hcons
    have htoken := Reads.token hcons
    split at h
    · rename_i n htok
      cases h
      rw [htok] at htoken
      exact ⟨[t], htoken, by simpa [htok] using Value.num n, by simp [Expr.height], hpos⟩
    · rename_i s htok
      cases h
      rw [htok] at htoken
      exact ⟨[t], htoken, by simpa [htok] using Value.str s, by simp [Expr.height], hpos⟩
    · rename_i htok
      obtain ⟨P, hP, u, t', hu, htok', hphrase, hwithin⟩ :=
        enclosed_sound (d := d) hi rfl h
      rw [htok] at htoken
      exact ⟨[t] ++ (u ++ [t']), htoken.trans hu (.inr (by simp)),
        by simpa [htok, htok'] using Value.enclosed hP hphrase, hwithin⟩
    · rename_i name htok
      rw [htok] at htoken
      have hname := htoken.trans (.skip d more) (.inl rfl)
      rw [List.append_nil] at hname
      split at h
      · rename_i hparen
        cases hskip : skip (0 < d) more with
        | nil => simp [hskip] at hparen
        | cons t' more' =>
          rw [hskip] at h
          have htok' : t'.tok = .lparen := by simpa [hskip] using hparen
          have hopen := Reads.token hskip
          rw [htok'] at hopen
          obtain ⟨u, t'', hu, htok'', hphrase, hwithin⟩ := call_sound (d := d) hi h
          refine ⟨[t] ++ [t'] ++ (u ++ [t'']), ?_,
            by simpa [htok, htok', htok''] using hphrase, hwithin⟩
          exact (htoken.trans hopen (.inr (by simp))).trans hu (.inr (by simp))
      · split at h
        · rename_i e he
          cases h
          have hnames := (named_iff _ _ _).mp he
          exact ⟨[t], hname, by simpa [htok] using Value.name hnames, hnames.height.symm, hpos⟩
        · cases h
    · cases h

/-- The access that has been read so far grows by one in each step. -/
theorem moreAccesses_sound (hi : SoundInside setting.limits.height inner Inner) {d steps : Nat}
    {base node : Node} {ts rest : List Token} {l : List Tok}
    (h : moreAccesses setting.limits.height inner (0 < d) steps base ts = .ok (node, rest))
    (hl : Access setting.side setting.libraries Inner l base.expr)
    (hbase : base.Within setting.limits.height) :
    ∃ used, Reads d ts used d rest ∧
      Access setting.side setting.libraries Inner (l ++ used.map (·.tok)) node.expr ∧
      node.Within setting.limits.height := by
  induction steps generalizing base ts l with
  | zero =>
    cases h
    exact ⟨[], .refl d _, by simpa using hl, hbase⟩
  | succ steps ih =>
    simp only [moreAccesses] at h
    have hskip := Reads.skip d ts
    split at h
    · rename_i hnil
      cases h
      rw [hnil] at hskip
      exact ⟨[], hskip, by simpa using hl, hbase⟩
    · rename_i t more hcons
      have htoken := Reads.token hcons
      split at h
      · rename_i htok
        rw [htok] at htoken
        split at h
        · rename_i name line start stop more' hname
          have hident := Reads.token hname
          split at h
          · cases h
          · rename_i node' more'' hover
            obtain ⟨hle, rfl, rfl⟩ := over_ok.mp hover
            have hmember := (Access.member hl : Access _ _ _ _ (.member _ name))
            obtain ⟨v, hv, hrest⟩ := ih h hmember ⟨by rw [hbase.height_eq, Expr.height], hle⟩
            refine ⟨[t] ++ [⟨.ident name, line, start, stop⟩] ++ v,
              (htoken.trans hident (.inl rfl)).trans hv (.inl rfl), ?_⟩
            simpa [htok] using hrest
        · cases h
      · rename_i htok
        rw [htok] at htoken
        split at h
        · cases h
        · rename_i key more' hread
          obtain ⟨P, hP, u, t', hu, htok', hphrase, hkey⟩ :=
            enclosed_sound (d := d) hi rfl hread
          split at h
          · cases h
          · rename_i node' more'' hover
            obtain ⟨hle, rfl, rfl⟩ := over_ok.mp hover
            have hindex := Access.index hl hP hphrase
            obtain ⟨v, hv, hrest⟩ := ih h hindex
              ⟨by rw [hbase.height_eq, hkey.height_eq, Expr.height], hle⟩
            refine ⟨[t] ++ (u ++ [t']) ++ v,
              (htoken.trans hu (.inr (by simp))).trans hv (.inl rfl), ?_⟩
            simpa [htok, htok'] using hrest
      · cases h
        rw [hcons] at hskip
        exact ⟨[], hskip, by simpa using hl, hbase⟩

def accessed (setting : Setting) (inner : Option Parser) (steps : List Token → Nat) : Parser :=
  fun nested ts =>
    match single setting inner nested ts with
    | .error e => .error e
    | .ok (base, rest) => moreAccesses setting.limits.height inner nested (steps rest) base rest

theorem accessed_sound (hi : SoundInside setting.limits.height inner Inner)
    (steps : List Token → Nat) :
    Sound setting.limits.height (accessed setting inner steps)
      (Access setting.side setting.libraries Inner) := by
  intro d ts node rest h
  simp only [accessed] at h
  split at h
  · cases h
  · rename_i base more hbase
    obtain ⟨u, hu, hphrase, hwithin⟩ := single_sound hi d _ _ _ hbase
    obtain ⟨v, hv, hrest⟩ := moreAccesses_sound hi h (.value hphrase) hwithin
    exact ⟨u ++ v, hu.trans hv (.inl rfl), by simpa using hrest⟩

theorem access_sound (hi : SoundInside setting.limits.height inner Inner) :
    Sound setting.limits.height (access setting inner)
      (Access setting.side setting.libraries Inner) :=
  accessed_sound hi List.length

theorem SoundInside.disjunction {limit : Nat} {deeper : Option Parser} {Deeper : Option Phrase}
    (hd : SoundInside limit deeper Deeper) :
    SoundInside limit (deeper.map (disjunction limit)) (Deeper.map Expression) := by
  intro p hp
  obtain ⟨q, hq, rfl⟩ := Option.map_eq_some_iff.mp hp
  obtain ⟨P, hP, hsound⟩ := hd q hq
  exact ⟨Expression P, Option.mem_map_of_mem Expression hP, disjunction_sound hsound⟩

theorem accessOver_sound {deeper : Option Parser} {Deeper : Option Phrase}
    (hd : SoundInside setting.limits.height deeper Deeper) :
    Sound setting.limits.height (accessOver setting deeper)
      (Access setting.side setting.libraries (Deeper.map Expression)) :=
  access_sound hd.disjunction

theorem operandOver_sound {deeper : Option Parser} {Deeper : Option Phrase}
    (hd : SoundInside setting.limits.height deeper Deeper) :
    Sound setting.limits.height (operandOver setting deeper)
      (Prefixed setting.side setting.libraries Deeper) := by
  intro d ts node rest h
  have haccess := accessOver_sound hd
  simp only [operandOver] at h
  have hskip := Reads.skip d ts
  split at h
  · rename_i hnil
    rw [hnil] at hskip
    obtain ⟨u, hu, hphrase, hwithin⟩ := haccess d _ _ _ h
    exact ⟨[] ++ u, hskip.trans hu (.inl rfl), .access hphrase, hwithin⟩
  · rename_i t more hcons
    split at h
    · rw [hcons] at hskip
      obtain ⟨u, hu, hphrase, hwithin⟩ := haccess d _ _ _ h
      exact ⟨[] ++ u, hskip.trans hu (.inl rfl), .access hphrase, hwithin⟩
    · rename_i op hop
      have hsign := (unary?_iff _ _).mp hop
      have htoken := Reads.token hcons
      rw [hsign.depth] at htoken
      split at h
      · cases h
      · rename_i p
        split at h
        · cases h
        · rename_i node' more' hnode
          obtain ⟨P, hP, hp⟩ := hd p rfl
          obtain ⟨u, hu, hphrase, hwithin⟩ := hp d _ _ _ hnode
          obtain ⟨hle, rfl, rfl⟩ := over_ok.mp h
          exact ⟨[t] ++ u, htoken.trans hu (.inl rfl), .unary hsign hP hphrase,
            by rw [hwithin.height_eq, Expr.height], hle⟩

theorem operand_sound (room : Nat) :
    Sound setting.limits.height (operand setting room)
      (Operand setting.side setting.libraries room) := by
  induction room with
  | zero => exact operandOver_sound fun p hp => by cases hp
  | succ room ih =>
    refine operandOver_sound fun p hp => ?_
    cases hp
    exact ⟨_, rfl, ih⟩

theorem expression_sound {ts rest : List Token} {node : Node}
    (h : expression setting false ts = .ok (node, rest)) :
    ∃ used, Reads 0 ts used 0 rest ∧
      Whole setting.side setting.libraries setting.limits (used.map (·.tok)) node.expr := by
  obtain ⟨u, hu, hphrase, hwithin⟩ :=
    disjunction_sound (operand_sound setting.limits.descent) 0 ts node rest h
  exact ⟨u, hu, hphrase, hwithin.height_eq ▸ hwithin.le⟩

theorem deeper_sound (room : Nat) :
    SoundInside setting.limits.height (deeper setting room)
      (Deeper setting.side setting.libraries room) := by
  intro p hp
  cases room with
  | zero => cases hp
  | succ room =>
    cases hp
    exact ⟨_, rfl, operand_sound room⟩

theorem place_sound {ts rest : List Token} {node : Node}
    (h : place setting false ts = .ok (node, rest)) :
    ∃ used, Reads 0 ts used 0 rest ∧
      Place setting.side setting.libraries setting.limits (used.map (·.tok)) node.expr := by
  obtain ⟨u, hu, hphrase, hwithin⟩ :=
    accessOver_sound (deeper_sound setting.limits.descent) 0 ts node rest h
  exact ⟨u, hu, hphrase, hwithin.height_eq ▸ hwithin.le⟩

end

end RequestFlow.Hook
