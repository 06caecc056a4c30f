import RequestFlow.Proofs.Hook.Descents
import RequestFlow.Proofs.Hook.Heights
import RequestFlow.Proofs.Hook.Tracking

/-!
# RequestFlow.Proofs.Hook.Nesting

The limits of nesting are exact.

* `statements_iff_shallow` — a hook that is valid within some limits is read within others just if
  its expressions are low enough and the parser does not descend too often for it.
* `nesting_exact`          — what is known of nodes, counters, heights and descents, put together.
* `compile_height_le`      — no expression in compiled hooks is higher than 128.
-/

namespace RequestFlow.Hook

open Counted (Cursor Realizes)

section

variable {side : Side} {libraries : List Library} {setting : Setting} {limits : Limits}
  {source : List Char} {ts : List Token} {program : List Statement} {levels : Nat}
  {completed : List (Statement × Cursor)} {last : Cursor}

theorem statements_of_runFrom (hlevels : setting.limits.descent ≤ levels)
    (h : Counted.runFrom setting source levels ts.length ⟨0, 0, 0, ts⟩ = (completed, .ok last)) :
    statements setting source ts = .ok (completed.map (·.1)) := by
  have hrealizes : Realizes _ (statements setting source ts) :=
    Counted.runFrom_realizes hlevels ts.length 0 ts
  rw [h] at hrealizes
  cases hread : statements setting source ts with
  | error e => cases hrealizes.refused e hread
  | ok program => rw [← (hrealizes.read program hread).1]

theorem run_of_statements (h : statements setting source ts = .ok program) :
    ∃ completed last, Counted.run setting source ts = (completed, .ok last) ∧
      completed.map (·.1) = program := by
  obtain ⟨hmap, last, hlast⟩ := (Counted.run_realizes setting source ts).read program h
  exact ⟨_, last, Prod.ext rfl hlast, hmap⟩

theorem peak_le (h : Counted.run setting source ts = (completed, .ok last)) :
    last.peak ≤ setting.limits.descent := by
  obtain ⟨_, hmax, _⟩ :=
    Counted.runFrom_extends setting.limits (Nat.le_refl _) (Nat.le_refl _) h
  simpa using hmax

/-- Two runs that end well are both within limits that neither goes beyond, so that they end at
the same cursor. -/
theorem cursor_unique {limits' : Limits} {completed' : List (Statement × Cursor)} {last' : Cursor}
    (h : Counted.run ⟨side, libraries, limits⟩ source ts = (completed, .ok last))
    (h' : Counted.run ⟨side, libraries, limits'⟩ source ts = (completed', .ok last')) :
    last' = last := by
  obtain ⟨_, _, hsame⟩ := Counted.runFrom_extends (limits.join limits')
    (Nat.le_max_left _ _) (Nat.le_max_left _ limits'.descent) h
  obtain ⟨_, _, hsame'⟩ := Counted.runFrom_extends (limits.join limits')
    (Nat.le_max_right _ _) (Nat.le_max_right limits.descent _) h'
  have hjoin := hsame (Nat.le_trans (peak_le h) (Nat.le_max_left _ _))
  rw [hsame' (Nat.le_trans (peak_le h') (Nat.le_max_right _ _))] at hjoin
  cases hjoin
  rfl

/-- A hook that is valid within some limits is read within others just if its expressions are low
enough and the descents that the parser came to are as few. -/
theorem statements_iff_shallow (limits' : Limits)
    (h : Counted.run ⟨side, libraries, limits⟩ source ts = (completed, .ok last)) :
    statements ⟨side, libraries, limits'⟩ source ts = .ok (completed.map (·.1)) ↔
      Low limits'.height (completed.map (·.1)) ∧ last.peak ≤ limits'.descent := by
  constructor
  · intro hread
    obtain ⟨completed', last', h', _⟩ := run_of_statements hread
    cases cursor_unique h h'
    exact ⟨program_low (statements_sound hread), peak_le h'⟩
  · rintro ⟨hlow, hpeak⟩
    -- As many descents as were made are enough, and the heights may be lowered after that.
    let shallow : Limits := { limits with descent := last.peak }
    have hheight : limits.height ≤ shallow.height := Nat.le_refl _
    obtain ⟨_, _, hsame⟩ := Counted.runFrom_extends shallow hheight (Nat.le_refl _) h
    have hread : statements ⟨side, libraries, shallow⟩ source ts = .ok (completed.map (·.1)) :=
      statements_of_runFrom (peak_le h) (hsame (Nat.le_refl _))
    have hprogram : Program side libraries shallow source (flatten 0 ts) (completed.map (·.1)) :=
      statements_sound hread
    let low : Limits := { limits' with descent := last.peak }
    have hlimits : ¬low.Exceed limits' := by
      simp only [Limits.Exceed, low]
      omega
    have hdescent : low.descent = shallow.descent := rfl
    exact statements_of_not_exceed hlimits (hprogram.lower hdescent hlow)

end

/-- The limits of nesting are exact. The height in each node that is made is that of its tree. The
parser with counters, which may call itself as deep as there may be descents, reads what the one
without counters reads: it never runs out of levels and lowers no counter at zero, none is up after
a statement, and no more descents have been made than there may be. No expression in a hook that is
read is higher than the limit. A hook that is valid within some other limits is read just if its
expressions are low enough and the parser descends no deeper for it than it may; or else it is
refused for its nesting. -/
theorem nesting_exact (setting : Setting) (source : List Char) (ts : List Token) :
    (∀ p, Stage setting p → ∀ nested ts' node rest, p nested ts' = .ok (node, rest) →
      node.height = node.expr.height ∧ node.height ≤ setting.limits.height) ∧
    (Realizes (Counted.run setting source ts) (statements setting source ts) ∧
      (Counted.run setting source ts).2 ≠ .error .overrun ∧
      (Counted.run setting source ts).2 ≠ .error .underflow ∧
      ∀ last, (Counted.run setting source ts).2 = .ok last →
        last.peak ≤ setting.limits.descent) ∧
    (∀ program, statements setting source ts = .ok program →
      ∀ st ∈ program, ∀ e ∈ st.action.written ++ st.action.exprs, ∀ x, Inside x e →
        x.height ≤ setting.limits.height) ∧
    ∀ limits program,
      Program setting.side setting.libraries limits source (flatten 0 ts) program →
      ∃ last, (Counted.run { setting with limits } source ts).2 = .ok last ∧
        (statements setting source ts = .ok program ↔
          Low setting.limits.height program ∧ last.peak ≤ setting.limits.descent) ∧
        ((∃ rest, statements setting source ts = .error ⟨.nestedTooDeeply, rest⟩) ↔
          ¬(Low setting.limits.height program ∧ last.peak ≤ setting.limits.descent)) := by
  have hrealizes := Counted.run_realizes setting source ts
  refine ⟨?_, ⟨hrealizes, ?_, ?_, ?_⟩, ?_, ?_⟩
  · intro p hp nested ts' node rest hread
    have hwithin := hp.within hread
    exact ⟨hwithin.height_eq, hwithin.le⟩
  · intro hran
    obtain ⟨e, he, _⟩ := hrealizes.halt hran
    cases he
  · intro hran
    obtain ⟨e, he, _⟩ := hrealizes.halt hran
    cases he
  · intro last hlast
    exact peak_le (Prod.ext rfl hlast)
  · intro program hread
    exact program_height_le (statements_sound hread)
  · intro limits program hprogram
    have hread : statements { setting with limits } source ts = .ok program :=
      statements_of_not_exceed limits.not_exceed_self hprogram
    obtain ⟨completed, last, hrun, rfl⟩ := run_of_statements hread
    have hiff := statements_iff_shallow setting.limits hrun
    refine ⟨last, by rw [hrun], hiff, ?_⟩
    rw [← hiff]
    obtain hok | ⟨_, rest, herr⟩ : statements setting source ts = .ok (completed.map (·.1)) ∨ _ :=
      statements_complete hprogram
    · simp [hok]
    · simp [herr]

theorem nesting_exact_not :
    let source := "fail !(true)".toList
    let ts : List Token := [⟨.ident "fail", 1, 0, 4⟩, ⟨.not, 1, 5, 6⟩, ⟨.lparen, 1, 6, 7⟩,
      ⟨.ident "true", 1, 7, 11⟩, ⟨.rparen, 1, 11, 12⟩]
    let program : List Statement := [⟨.fail (.unary .not (.literal (.bool true))), 1⟩]
    let reads (height descent : Nat) (h : 0 < height) :=
      statements ⟨.before, [], ⟨height, descent, h⟩⟩ source ts
    tokens source = .ok ts ∧ Program .before [] {} source ts program ∧
      (∃ node, expression ⟨.before, [], {}⟩ false ts.tail = .ok (node, []) ∧
        node.height = 2 ∧ node.expr.height = 2) ∧
      reads 2 2 (by decide) = .ok program ∧
      (∃ rest, reads 2 1 (by decide) = .error ⟨.nestedTooDeeply, rest⟩) ∧
      ∃ rest, reads 1 2 (by decide) = .error ⟨.nestedTooDeeply, rest⟩ := by
  intro source ts program reads
  have htokens : tokens source = .ok ts := by decide +kernel
  have hread : statements ⟨.before, [], {}⟩ source ts = .ok program := rfl
  have hprogram : Program .before [] {} source (flatten 0 ts) program := statements_sound hread
  have hnode : expression ⟨.before, [], {}⟩ false ts.tail =
      .ok (⟨.unary .not (.literal (.bool true)), 2⟩, []) := rfl
  obtain ⟨hheight, _⟩ := (nesting_exact ⟨.before, [], {}⟩ source ts).1 _ .expression _ _ _ _ hnode
  have hrun : (Counted.run ⟨.before, [], {}⟩ source ts).2.toOption.map (·.peak) = some 2 := by
    decide +kernel
  have hpeak : ∀ last, (Counted.run ⟨.before, [], {}⟩ source ts).2 = .ok last → last.peak = 2 := by
    intro last hlast
    rw [hlast] at hrun
    exact Option.some.inj hrun
  have hexact := fun height descent h =>
    (nesting_exact ⟨.before, [], ⟨height, descent, h⟩⟩ source ts).2.2.2 {} program hprogram
  refine ⟨htokens, hprogram, ⟨_, hnode, rfl, hheight.symm⟩, ?_, ?_, ?_⟩
  · obtain ⟨last, hlast, hiff, _⟩ := hexact 2 2 (by decide)
    exact hiff.mpr ⟨by simp [Low, program, Action.written, Expr.height], (hpeak last hlast).le⟩
  · obtain ⟨last, hlast, _, hiff⟩ := hexact 2 1 (by decide)
    refine hiff.mpr ?_
    rintro ⟨_, hle⟩
    rw [hpeak last hlast] at hle
    exact absurd hle (by decide)
  · obtain ⟨last, hlast, _, hiff⟩ := hexact 1 2 (by decide)
    refine hiff.mpr ?_
    rintro ⟨hlow, _⟩
    simp [Low, program, Action.written, Expr.height] at hlow

theorem compile_height_le {leaf before after : String} {imports : List String} {hooks : Hooks}
    (h : Hooks.compile leaf before after imports = .ok hooks) :
    ∀ st ∈ hooks.before ++ hooks.after, ∀ e ∈ st.action.written ++ st.action.exprs, ∀ x,
      Inside x e → x.height ≤ 128 := by
  simp only [Hooks.compile] at h
  split at h
  · cases h
  split at h
  · cases h
  rename_i hbefore
  split at h
  · cases h
  rename_i hafter
  cases h
  obtain ⟨_, hbefore⟩ := compileSide_program hbefore
  obtain ⟨_, hafter⟩ := compileSide_program hafter
  intro st hst
  rcases List.mem_append.mp hst with hst | hst
  · exact program_height_le hbefore st hst
  · exact program_height_le hafter st hst

end RequestFlow.Hook
