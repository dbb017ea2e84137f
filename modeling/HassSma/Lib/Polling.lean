/-
  Polling a source until a value matches.

  A source is a step function `next`: it hands over a value or an error and moves on.  `poll` asks it
  at most `n` times and stops at the first value that a matcher accepts, at the first error, or
  when the attempts are used up.

  `Delivers next t bs t'` says that the next values out of `t` are exactly `bs`, without an error, and
  that the source then stands at `t'`.  It turns a poll into a statement about a list: values the
  matcher passes over cost one attempt each (`poll_skip`), the poll succeeds exactly when some value
  in reach matches and nothing before it does (`poll_eq_ok_iff`), and it fails with an error of the
  source exactly when that comes first (`poll_eq_error_iff`).

  Where polls follow one another, the values they go through are cut at each match, and no gap
  between two matches is longer than one poll's attempts: `ShortGaps` says so of the whole list
  (`polls_eq_ok_iff`).
-/
import Mathlib.Data.List.Basic

namespace Polling

variable {τ ε β γ δ : Type}

/-- At most `n` values from `next`, up to the first one `p` accepts.  `none` stands for attempts
    used up, `some e` for an error of the source. -/
def poll (next : τ → Except ε β × τ) (p : β → Option γ) : Nat → τ → Except (Option ε) γ × τ
  | 0, t => (.error none, t)
  | n + 1, t =>
    match next t with
    | (.error e, t') => (.error (some e), t')
    | (.ok b, t') =>
      match p b with
      | some c => (.ok c, t')
      | none => poll next p n t'

/-- The next values of the source are `bs`, and then it stands at the last argument. -/
inductive Delivers (next : τ → Except ε β × τ) : τ → List β → τ → Prop where
  | nil (t : τ) : Delivers next t [] t
  | cons {t t' t'' : τ} {b : β} {bs : List β} :
      next t = (.ok b, t') → Delivers next t' bs t'' → Delivers next t (b :: bs) t''

variable {next : τ → Except ε β × τ} {p : β → Option γ}

theorem Delivers.split {t t'' : τ} {bs cs : List β} (h : Delivers next t (bs ++ cs) t'') :
    ∃ t', Delivers next t bs t' ∧ Delivers next t' cs t'' := by
  induction bs generalizing t with
  | nil => exact ⟨t, .nil t, h⟩
  | cons b bs ih =>
    cases h with
    | cons hb hrest =>
      obtain ⟨t', hbs, hcs⟩ := ih hrest
      exact ⟨t', .cons hb hbs, hcs⟩

theorem Delivers.append {t t' t'' : τ} {bs cs : List β} (hb : Delivers next t bs t')
    (hc : Delivers next t' cs t'') : Delivers next t (bs ++ cs) t'' := by
  induction hb with
  | nil t => exact hc
  | cons hnext _ ih => exact .cons hnext (ih hc)

/-- A source that takes its values off a queue delivers what is queued. -/
theorem delivers_queue {queue : List β → τ}
    (hnext : ∀ b bs, next (queue (b :: bs)) = (.ok b, queue bs)) (bs rest : List β) :
    Delivers next (queue (bs ++ rest)) bs (queue rest) := by
  induction bs with
  | nil => exact .nil _
  | cons b bs ih => exact .cons (hnext b (bs ++ rest)) ih

/-- Values the matcher passes over cost one attempt each. -/
theorem poll_skip {t t' : τ} {bs : List β} (h : Delivers next t bs t') (hp : ∀ b ∈ bs, p b = none)
    (n : Nat) : poll next p (bs.length + n) t = poll next p n t' := by
  induction h with
  | nil t => rw [List.length_nil, Nat.zero_add]
  | cons hb _ ih =>
    rw [List.forall_mem_cons] at hp
    rw [List.length_cons, Nat.add_right_comm, poll, hb]
    simp only [hp.1]
    exact ih hp.2

/-- The first matching value in reach ends the poll. -/
theorem poll_found {t t' : τ} {bs : List β} {b : β} {c : γ} {n : Nat}
    (h : Delivers next t (bs ++ [b]) t') (hbs : ∀ b ∈ bs, p b = none) (hb : p b = some c)
    (hn : bs.length < n) : poll next p n t = (.ok c, t') := by
  obtain ⟨t₁, hskip, hlast⟩ := h.split
  cases hlast with
  | cons hnext hnil =>
    cases hnil
    obtain ⟨k, rfl⟩ := Nat.exists_eq_add_of_lt hn
    rw [Nat.add_assoc, poll_skip hskip hbs, poll, hnext]
    simp only [hb]

/-- **When a poll succeeds**: some value in reach matches, and none before it does. -/
theorem poll_eq_ok_iff {n : Nat} {t t' : τ} {c : γ} :
    poll next p n t = (.ok c, t') ↔
      ∃ bs b, bs.length < n ∧ Delivers next t (bs ++ [b]) t' ∧ (∀ b ∈ bs, p b = none) ∧
        p b = some c := by
  constructor
  · intro h
    induction n generalizing t with
    | zero => nomatch h
    | succ n ih =>
      rw [poll] at h
      cases hnext : next t with
      | mk r t₁ =>
        rw [hnext] at h
        cases r with
        | error e => nomatch h
        | ok b =>
          simp only at h
          cases hb : p b with
          | some c' =>
            rw [hb] at h
            obtain ⟨hc, rfl⟩ := Prod.mk.inj h
            obtain rfl := Except.ok.inj hc
            exact ⟨[], b, Nat.succ_pos n, .cons hnext (.nil _), by simp, hb⟩
          | none =>
            rw [hb] at h
            obtain ⟨bs, b', hlen, hdel, hskip, hmatch⟩ := ih h
            refine ⟨b :: bs, b', Nat.succ_lt_succ hlen, .cons hnext hdel, ?_, hmatch⟩
            exact List.forall_mem_cons.mpr ⟨hb, hskip⟩
  · rintro ⟨bs, b, hlen, hdel, hskip, hmatch⟩
    exact poll_found hdel hskip hmatch hlen

/-- An error of the source behind values that pass the matcher ends the poll. -/
theorem poll_error {t t' t'' : τ} {bs : List β} {e : ε} {n : Nat} (h : Delivers next t bs t')
    (hp : ∀ b ∈ bs, p b = none) (he : next t' = (.error e, t'')) (hn : bs.length < n) :
    poll next p n t = (.error (some e), t'') := by
  obtain ⟨k, rfl⟩ := Nat.exists_eq_add_of_lt hn
  rw [Nat.add_assoc, poll_skip h hp, poll, he]

/-- **When a poll ends in an error of the source**: one of the values in reach is not there, and none
    before it matches. -/
theorem poll_eq_error_iff {n : Nat} {t t' : τ} {e : ε} :
    poll next p n t = (.error (some e), t') ↔
      ∃ bs t₁, bs.length < n ∧ Delivers next t bs t₁ ∧ (∀ b ∈ bs, p b = none) ∧
        next t₁ = (.error e, t') := by
  constructor
  · intro h
    induction n generalizing t with
    | zero => nomatch h
    | succ n ih =>
      rw [poll] at h
      cases hnext : next t with
      | mk r t₁ =>
        rw [hnext] at h
        cases r with
        | error e' =>
          obtain ⟨he, rfl⟩ := Prod.mk.inj h
          obtain rfl := Option.some.inj (Except.error.inj he)
          exact ⟨[], t, Nat.succ_pos n, .nil t, by simp, hnext⟩
        | ok b =>
          simp only at h
          cases hb : p b with
          | some c =>
            rw [hb] at h
            nomatch h
          | none =>
            rw [hb] at h
            obtain ⟨bs, t₂, hlen, hdel, hskip, herr⟩ := ih h
            exact ⟨b :: bs, t₂, Nat.succ_lt_succ hlen, .cons hnext hdel,
              List.forall_mem_cons.mpr ⟨hb, hskip⟩, herr⟩
  · rintro ⟨bs, t₁, hlen, hdel, hskip, herr⟩
    exact poll_error hdel hskip herr hlen

/-! ## Polls one after the other -/

/-- No `n` values in a row that the matcher passes over. -/
def ShortGaps (p : β → Option γ) (n : Nat) (bs : List β) : Prop :=
  ∀ gap, gap <:+: bs → (∀ b ∈ gap, p b = none) → gap.length < n

theorem ShortGaps.front {n : Nat} {skip rest : List β} (h : ShortGaps p n (skip ++ rest))
    (hskip : ∀ b ∈ skip, p b = none) : skip.length < n :=
  h skip List.infix_append_left hskip

theorem ShortGaps.back {n : Nat} {bs rest : List β} (h : ShortGaps p n (bs ++ rest)) :
    ShortGaps p n rest :=
  fun gap hgap => h gap (hgap.trans List.infix_append_right)

theorem shortGaps_of_none {n : Nat} {bs : List β} (hn : bs.length < n) : ShortGaps p n bs :=
  fun _ hgap _ => Nat.lt_of_le_of_lt hgap.length_le hn

/-- A match ends a gap, so what follows it is a list of its own. -/
theorem shortGaps_append {n : Nat} {skip rest : List β} {b : β} {c : γ} (hskip : skip.length < n)
    (hb : p b = some c) (hrest : ShortGaps p n rest) : ShortGaps p n (skip ++ b :: rest) := by
  -- what starts in front of the match cannot reach over it
  have hfront : ∀ {skip : List β}, skip.length < n → ∀ gap, gap <+: skip ++ b :: rest →
      (∀ b ∈ gap, p b = none) → gap.length < n := by
    intro skip hlen gap hgap hnone
    by_contra hlong
    have hmem : b ∈ gap := by
      rw [List.prefix_iff_eq_take] at hgap
      rw [hgap, List.take_append, List.mem_append,
        show gap.length - skip.length = gap.length - skip.length - 1 + 1 by omega, List.take_succ_cons]
      exact .inr List.mem_cons_self
    exact nomatch (hnone b hmem).symm.trans hb
  induction skip with
  | nil =>
    intro gap hgap hnone
    rcases List.infix_cons_iff.mp hgap with hprefix | hinfix
    · exact hfront hskip gap hprefix hnone
    · exact hrest gap hinfix hnone
  | cons x skip ih =>
    intro gap hgap hnone
    rcases List.infix_cons_iff.mp hgap with hprefix | hinfix
    · exact hfront hskip gap hprefix hnone
    · exact ih (Nat.lt_of_succ_lt hskip) gap hinfix hnone

/-- Either the matcher passes over everything, or there is a first match. -/
theorem none_or_first (p : β → Option γ) (bs : List β) :
    (∀ b ∈ bs, p b = none) ∨ ∃ skip b rest c, bs = skip ++ b :: rest ∧
      (∀ b ∈ skip, p b = none) ∧ p b = some c := by
  cases hfirst : bs.findSome? p with
  | none => exact .inl (List.findSome?_eq_none_iff.mp hfirst)
  | some c =>
    obtain ⟨skip, b, rest, rfl, hb, hskip⟩ := List.findSome?_eq_some_iff.mp hfirst
    exact .inr ⟨skip, b, rest, c, rfl, hskip, hb⟩

/-- At most `m` polls of `n` attempts each, up to the first result that `q` accepts. -/
def polls (next : τ → Except ε β × τ) (p : β → Option γ) (n : Nat) (q : γ → Option δ) :
    Nat → τ → Except (Option ε) δ × τ
  | 0, t => (.error none, t)
  | m + 1, t =>
    match poll next p n t with
    | (.error e, t') => (.error e, t')
    | (.ok c, t') =>
      match q c with
      | some d => (.ok d, t')
      | none => polls next p n q m t'

/-- The first poll, and the rest. -/
theorem polls_succ_eq_ok_iff {q : γ → Option δ} {n m : Nat} {t t' : τ} {d : δ} :
    polls next p n q (m + 1) t = (.ok d, t') ↔
      ∃ c t₁, poll next p n t = (.ok c, t₁) ∧
        ((q c = some d ∧ t₁ = t') ∨ (q c = none ∧ polls next p n q m t₁ = (.ok d, t'))) := by
  rw [polls]
  rcases hpoll : poll next p n t with ⟨e | c, t₁⟩
  · constructor
    · intro h
      nomatch h
    · rintro ⟨c, t₁, heq, -⟩
      nomatch heq
  · simp only
    constructor
    · intro h
      refine ⟨c, t₁, rfl, ?_⟩
      cases hq : q c with
      | some d' =>
        rw [hq] at h
        obtain ⟨hd, ht⟩ := Prod.mk.inj h
        exact .inl ⟨congrArg some (Except.ok.inj hd), ht⟩
      | none =>
        rw [hq] at h
        exact .inr ⟨rfl, h⟩
    · rintro ⟨c', t₂, heq, h⟩
      obtain ⟨hc, rfl⟩ := Prod.mk.inj heq
      obtain rfl := Except.ok.inj hc
      rcases h with ⟨hq, rfl⟩ | ⟨hq, h⟩
      · rw [hq]
      · rw [hq]
        exact h

/-- **When polls in a row succeed**: fewer than `m` matches come before the accepted one, and no `n`
    values in a row pass without a match. -/
theorem polls_eq_ok_iff {q : γ → Option δ} {n m : Nat} {t t' : τ} {d : δ} :
    polls next p n q m t = (.ok d, t') ↔
      ∃ bs b c, Delivers next t (bs ++ [b]) t' ∧ ShortGaps p n bs ∧ (bs.filterMap p).length < m ∧
        (∀ c ∈ bs.filterMap p, q c = none) ∧ p b = some c ∧ q c = some d := by
  induction m generalizing t with
  | zero =>
    constructor
    · intro h
      nomatch h
    · rintro ⟨bs, b, c, -, -, hcount, -⟩
      nomatch hcount
  | succ m ih =>
    rw [polls_succ_eq_ok_iff]
    constructor
    · rintro ⟨c, t₁, hpoll, hcase⟩
      obtain ⟨skip, b, hlen, hdel, hskip, hb⟩ := poll_eq_ok_iff.mp hpoll
      have hnone : skip.filterMap p = [] := List.filterMap_eq_nil_iff.mpr hskip
      rcases hcase with ⟨hq, rfl⟩ | ⟨hq, hlater⟩
      · refine ⟨skip, b, c, hdel, shortGaps_of_none hlen, ?_, ?_, hb, hq⟩
        · rw [hnone]
          exact Nat.succ_pos m
        · rw [hnone]
          exact fun c hc => nomatch hc
      · obtain ⟨bs, b', c', hdel', hgaps, hcount, hpass, hb', hq'⟩ := ih.mp hlater
        have hmatches : (skip ++ b :: bs).filterMap p = c :: bs.filterMap p := by
          rw [List.filterMap_append, hnone, List.nil_append, List.filterMap_cons_some hb]
        refine ⟨skip ++ b :: bs, b', c', ?_, shortGaps_append hlen hb hgaps, ?_, ?_, hb', hq'⟩
        · rw [show skip ++ b :: bs ++ [b'] = (skip ++ [b]) ++ (bs ++ [b']) by simp]
          exact hdel.append hdel'
        · rw [hmatches, List.length_cons]
          omega
        · rw [hmatches, List.forall_mem_cons]
          exact ⟨hq, hpass⟩
    · rintro ⟨bs, b', c', hdel, hgaps, hcount, hpass, hb', hq'⟩
      rcases none_or_first p bs with hnone | ⟨skip, b, rest, c, rfl, hskip, hb⟩
      · have hlen : bs.length < n := hgaps bs (List.infix_refl bs) hnone
        exact ⟨c', t', poll_eq_ok_iff.mpr ⟨bs, b', hlen, hdel, hnone, hb'⟩, .inl ⟨hq', rfl⟩⟩
      · have hmatches : (skip ++ b :: rest).filterMap p = c :: rest.filterMap p := by
          rw [List.filterMap_append, List.filterMap_eq_nil_iff.mpr hskip, List.nil_append,
            List.filterMap_cons_some hb]
        rw [hmatches, List.length_cons] at hcount
        rw [hmatches, List.forall_mem_cons] at hpass
        rw [show skip ++ b :: rest ++ [b'] = (skip ++ [b]) ++ (rest ++ [b']) by simp] at hdel
        obtain ⟨t₁, hfirst, hlater⟩ := hdel.split
        refine ⟨c, t₁, poll_eq_ok_iff.mpr ⟨skip, b, hgaps.front hskip, hfirst, hskip, hb⟩,
          .inr ⟨hpass.1, ih.mpr ?_⟩⟩
        rw [← List.singleton_append, ← List.append_assoc] at hgaps
        exact ⟨rest, b', c', hlater, hgaps.back, by omega, hpass.2, hb', hq'⟩

end Polling
