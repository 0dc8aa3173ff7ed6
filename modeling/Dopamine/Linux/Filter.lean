import Dopamine.Linux.Firewall

/-!
# The composed filter

The verdict an outgoing packet gets from an installed filter table: the anchors in install order,
the first enabled one that decides wins, and only a packet that none of them decides reaches the
rules of the host (`verdict_installed`).
-/

namespace Dopamine.Linux

open Netfilter Shell LinuxFirewall List Ruleset

/-! ## Verdicts -/

/-- What an anchor decides for a packet. -/
def AnchorState.decides (s : AnchorState) (p : Packet) (a : Anchor) : Option Verdict :=
  if s.enabled a then evalRules p.sat (fun _ => none) (s.rules a) else none

/-- What the anchors decide: the first verdict in order. -/
def AnchorState.verdict (s : AnchorState) (l : List Anchor) (p : Packet) : Option Verdict :=
  l.findSome? (s.decides p)

/-- No rule of the listed anchors jumps anywhere. -/
def AnchorState.Flat (s : AnchorState) (l : List Anchor) : Prop :=
  ∀ a ∈ l, ∀ r ∈ s.rules a, ∀ c, r.target ≠ .jump c

section Verdict

variable {t : Table} (h : Host t) {l : List Anchor} {s : AnchorState} (p : Packet)

/-- Rules without jumps do not depend on other chains. -/
theorem evalRules_of_flat (sub : Chain → Option Verdict) {rl : List FilterRule}
    (hr : ∀ r ∈ rl, ∀ c, r.target ≠ .jump c) :
    evalRules p.sat sub rl = evalRules p.sat (fun _ => none) rl := by
  induction rl with
  | nil => rfl
  | cons r rl ih =>
    have hrest := ih fun r' hr' => hr r' (mem_cons_of_mem _ hr')
    have hne := hr r mem_cons_self
    simp only [evalRules, hrest]
    split
    · split <;> first | rfl | next c hc => exact absurd hc (hne c)
    · rfl

theorem sat_empty : p.sat {} = true := by
  simp [Packet.sat]

variable {a : Anchor}

theorem evalChain_actual (hf : s.Flat l) (ha : a ∈ l) (n : ℕ) :
    evalChain (installed h l s) p.sat (n + 1) (.actual a) =
      evalRules p.sat (fun _ => none) (s.rules a) := by
  have hrules : (installed h l s).rules (.actual a) = s.rules a := by
    rw [installed, overlay_rules_mine rfl]
    simp only [ownPart, ha, if_true]
  rw [evalChain, hrules]
  exact evalRules_of_flat p _ (hf a ha)

theorem evalChain_placeholder (hf : s.Flat l) (ha : a ∈ l) (n : ℕ) :
    evalChain (installed h l s) p.sat (n + 2) (.placeholder a) = s.decides p a := by
  have hrules : (installed h l s).rules (.placeholder a) =
      if s.enabled a then [jumpTo (.actual a)] else [] := by
    rw [installed, overlay_rules_mine rfl]
    simp only [ownPart, ha, true_and]
  rw [evalChain, hrules, AnchorState.decides]
  split
  · rw [jumpTo, evalRules_jump_cons p.sat _ (sat_empty p), evalChain_actual h p hf ha,
      evalRules_nil, Option.or_none]
  · rfl

theorem evalChain_root (hf : s.Flat l) (n : ℕ) :
    evalChain (installed h l s) p.sat (n + 3) .root = s.verdict l p := by
  have hrules : (installed h l s).rules .root = l.map fun a => jumpTo (.placeholder a) := by
    rw [installed, overlay_rules_mine rfl]
    rfl
  rw [evalChain, hrules, AnchorState.verdict]
  exact evalRules_jumps p.sat _ (sat_empty p) Chain.placeholder l fun a ha =>
    evalChain_placeholder h p hf ha n

/-- An installed table has the parent, the root, and a placeholder and a chain for each anchor. -/
theorem exists_length_installed (hl : l ≠ []) (s : AnchorState) :
    ∃ n, (installed h l s).chains.length = n + 3 := by
  refine ⟨(installed h l s).chains.length - 3, ?_⟩
  have hhost : 0 < h.rs.chains.length := length_pos_of_mem h.parent_mem
  have hpos : 0 < l.length := length_pos_iff.mpr hl
  have hown : (ownPart true l s).chains.length = 1 + 2 * l.length := by
    simp [ownPart, length_flatMap, Nat.mul_comm, Nat.add_comm]
  have hsum : (installed h l s).chains.length =
      h.rs.chains.length + (ownPart true l s).chains.length := length_append
  omega

/-- The root chain decides what the anchors decide. -/
theorem verdict_root (hf : s.Flat l) (hl : l ≠ []) :
    (installed h l s).verdict p.sat .root = s.verdict l p := by
  obtain ⟨n, hn⟩ := exists_length_installed h hl s
  rw [Ruleset.verdict, hn]
  exact evalChain_root h p hf (n + 1)

/-- A packet that the anchors decide never reaches the rules of the host. -/
theorem verdict_installed (hf : s.Flat l) (hl : l ≠ []) {v : Verdict}
    (hv : s.verdict l p = some v) : (installed h l s).verdict p.sat t.parent = some v := by
  obtain ⟨n, hn⟩ := exists_length_installed h hl s
  rw [Ruleset.verdict, hn, evalChain, installed_rules_parent, jumpTo,
    evalRules_jump_cons p.sat _ (sat_empty p), evalChain_root h p hf, hv]
  rfl

end Verdict

end Dopamine.Linux
