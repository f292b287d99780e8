import Mathlib
import SwapDesk.Ledger.Json
import SwapDesk.Proofs.InstantText

/-! # The wire form of a swap

The wire form writes out the two tokens a swap's direction fixes, so it can say what a swap
cannot; reading it back accepts exactly the consistent ones. `Swap.wire_roundTrip` shows the two
sides inverse, also through JSON, where the instant's text must be valid (`Instant.Valid`).
-/

namespace SwapDesk

/-- The tokens of a wire form are the ones its direction fixes. -/
def SwapWire.Consistent (w : SwapWire) : Prop :=
  w.tokenIn = w.direction.tokenIn ∧ w.tokenOut = w.direction.tokenOut

instance (w : SwapWire) : Decidable w.Consistent := inferInstanceAs (Decidable (_ ∧ _))

/-! ## Wire forms and swaps -/

theorem Swap.toWire_consistent (s : Swap) : s.toWire.Consistent := ⟨rfl, rfl⟩

theorem SwapWire.toSwap_of_consistent {w : SwapWire} (consistent : w.Consistent) :
    w.toSwap = .ok ⟨w.id, w.time, w.direction, w.amountIn, w.amountOut, w.slippageBps, w.fee,
      w.status, w.signature⟩ := by
  unfold Consistent at consistent
  rw [SwapWire.toSwap, if_pos consistent]

theorem Swap.toSwap_toWire (s : Swap) : s.toWire.toSwap = .ok s :=
  SwapWire.toSwap_of_consistent (Swap.toWire_consistent s)

theorem SwapWire.toSwap_of_not_consistent {w : SwapWire} (inconsistent : ¬w.Consistent) :
    w.toSwap = .error w.mismatchMessage := by
  unfold Consistent at inconsistent
  rw [SwapWire.toSwap, if_neg inconsistent]

/-- A wire form is read as a swap exactly when its tokens agree with its direction, and the
swap read gives the wire form back. -/
theorem SwapWire.toSwap_eq_ok_iff (w : SwapWire) (s : Swap) :
    w.toSwap = .ok s ↔ w.Consistent ∧ s.toWire = w := by
  constructor
  · intro read
    by_cases consistent : w.Consistent
    · rw [toSwap_of_consistent consistent, Except.ok.injEq] at read
      subst read
      obtain ⟨tokenIn, tokenOut⟩ := consistent
      obtain ⟨_, _, direction, _, _, _, _, _, _, _, _⟩ := w
      dsimp only at tokenIn tokenOut
      subst tokenIn tokenOut
      exact ⟨⟨rfl, rfl⟩, rfl⟩
    · rw [toSwap_of_not_consistent consistent] at read
      cases read
  · rintro ⟨-, rfl⟩
    exact Swap.toSwap_toWire s

/-! ## JSON objects -/

theorem Json.toWord_nat (bits n : Nat) (kind : String) (fits : n < Nat.pow 2 bits) :
    Json.toWord bits kind (.nat n) = .ok n := by
  have fitsInt : (n : Int) < Int.pow 2 bits := by
    change n < 2 ^ bits at fits
    change (n : Int) < 2 ^ bits
    exact_mod_cast fits
  simp only [Json.nat, Json.toWord]
  rw [if_pos ⟨Int.natCast_nonneg n, fitsInt⟩]
  simp

theorem Json.toU32_nat (n : UInt32) : Json.toU32 (.nat n.toNat) = .ok n := by
  unfold Json.toU32
  rw [Json.toWord_nat 32 n.toNat _ n.toNat_lt]
  simp [Except.map]

theorem Json.field_of_get? {α : Type} {j v : Json} {name : String}
    (dec : Json → Except DecodeError α) (found : j.get? name = some v) :
    j.field name dec = dec v := by
  simp [Json.field, found]

theorem Json.toStruct_obj (name : String) (fields : List String) (ms : List (String × Json)) :
    Json.toStruct name fields (.obj ms) = .ok (.obj ms) := rfl

theorem Direction.ofJson_toJson (d : Direction) : Direction.ofJson d.toJson = .ok d := by
  cases d <;> rfl

theorem Token.ofJson_toJson (t : Token) : Token.ofJson t.toJson = .ok t := by
  cases t <;> rfl

theorem Status.ofJson_toJson (s : Status) : Status.ofJson s.toJson = .ok s := by
  cases s <;> rfl

theorem Instant.ofJson_text {t : Instant} (valid : t.Valid) :
    Instant.ofJson (.str (t.text .auto true)) = .ok t := by
  simp [Instant.ofJson, Json.toStr, Instant.parse_text valid, bind, Except.bind, pure, Except.pure]

/-- The JSON object of a wire form reads back, member by member; the instant's RFC 3339 text
reads back because the instant is valid. -/
theorem SwapWire.ofJson_toJson (w : SwapWire) (valid : w.time.Valid) :
    SwapWire.ofJson w.toJson = .ok w := by
  unfold SwapWire.ofJson SwapWire.toJson
  rw [Json.toStruct_obj, except_ok_bind]
  -- one member at a time, in the order the reader asks for them
  rw [Json.field_of_get? _ (by simp [Json.get?] : _ = some (Json.nat w.id.toNat)),
    Json.toU32_nat, except_ok_bind]
  rw [Json.field_of_get? _ (by simp [Json.get?] : _ = some (Json.str (w.time.text .auto true))),
    Instant.ofJson_text valid, except_ok_bind]
  rw [Json.field_of_get? _ (by simp [Json.get?] : _ = some w.direction.toJson),
    Direction.ofJson_toJson, except_ok_bind]
  rw [Json.field_of_get? _ (by simp [Json.get?] : _ = some (Json.float w.amountIn))]
  rw [Json.field_of_get? _ (by simp [Json.get?] : _ = some w.tokenIn.toJson),
    Token.ofJson_toJson]
  rw [Json.field_of_get? _ (by simp [Json.get?] : _ = some (Json.float w.amountOut))]
  rw [Json.field_of_get? _ (by simp [Json.get?] : _ = some w.tokenOut.toJson),
    Token.ofJson_toJson]
  rw [Json.field_of_get? _ (by simp [Json.get?] : _ = some (Json.nat w.slippageBps.toNat)),
    Json.toU32_nat]
  rw [Json.field_of_get? _ (by simp [Json.get?] : _ = some (Json.float w.fee))]
  rw [Json.field_of_get? _ (by simp [Json.get?] : _ = some w.status.toJson),
    Status.ofJson_toJson]
  rw [Json.field_of_get? _ (by simp [Json.get?] : _ = some (Json.str w.signature))]
  rfl

/-- Reading a wire form's JSON object is reading the wire form: a consistent one gives its
swap, any other the refusal with its message. -/
theorem Swap.ofJson_wire (w : SwapWire) (valid : w.time.Valid) :
    Swap.ofJson w.toJson = match w.toSwap with
      | .ok s => .ok s
      | .error m => .error (.rejected m) := by
  rw [Swap.ofJson, SwapWire.ofJson_toJson w valid, except_ok_bind]
  cases w.toSwap <;> rfl

/-! ## The round trip -/

/-- **A swap and its wire form determine each other.** A swap comes back from its wire form;
a wire form is read exactly when consistent, and otherwise refused with
`record <id>: tokens <IN> -> <OUT> do not match type <TYPE>`; through JSON likewise, for a
valid instant. -/
theorem Swap.wire_roundTrip (s : Swap) (w : SwapWire) :
    s.toWire.toSwap = .ok s ∧ (s.time.Valid → Swap.ofJson s.toJson = .ok s) ∧
      ((∃ r, w.toSwap = .ok r) ↔ w.Consistent) ∧
      (∀ r, w.toSwap = .ok r → r.toWire = w) ∧
      (¬w.Consistent →
        let message := "record " ++ toString w.id ++ ": tokens " ++ w.tokenIn.symbol ++ " -> " ++
          w.tokenOut.symbol ++ " do not match type " ++ w.direction.wireName
        w.toSwap = .error message ∧
          (w.time.Valid → Swap.ofJson w.toJson = .error (.rejected message))) := by
  have readsBack (valid : s.time.Valid) : Swap.ofJson s.toJson = .ok s := by
    rw [Swap.toJson, Swap.ofJson_wire s.toWire valid, Swap.toSwap_toWire]
  refine ⟨Swap.toSwap_toWire s, readsBack, ?_, ?_, ?_⟩
  · constructor
    · rintro ⟨r, read⟩
      exact ((SwapWire.toSwap_eq_ok_iff w r).mp read).1
    · intro consistent
      exact ⟨_, SwapWire.toSwap_of_consistent consistent⟩
  · intro r read
    exact ((SwapWire.toSwap_eq_ok_iff w r).mp read).2
  · intro inconsistent
    have refused := SwapWire.toSwap_of_not_consistent inconsistent
    refine ⟨refused, fun valid => ?_⟩
    rw [Swap.ofJson_wire w valid, refused]
    rfl

/-- A swap at `2026-01-20T14:05:00Z`, and a wire form that claims to sell USDC for SOL while
its direction sells SOL. -/
theorem Swap.wire_roundTrip_sample :
    let s : Swap := ⟨7, ⟨1768917900, 0⟩, .solToUsdc, 1.5, 222.48, 15, 0.0015, .confirmed, "5VfY"⟩
    let w : SwapWire :=
      ⟨7, ⟨1768917900, 0⟩, .solToUsdc, 1.5, .usdc, 222.48, .sol, 15, 0.0015, .confirmed, "5VfY"⟩
    s.time.Valid ∧ w.time.Valid ∧
      s.toWire.toSwap = .ok s ∧ (s.time.Valid → Swap.ofJson s.toJson = .ok s) ∧
      ((∃ r, w.toSwap = .ok r) ↔ w.Consistent) ∧
      (∀ r, w.toSwap = .ok r → r.toWire = w) ∧
      (¬w.Consistent →
        let message := "record " ++ toString w.id ++ ": tokens " ++ w.tokenIn.symbol ++ " -> " ++
          w.tokenOut.symbol ++ " do not match type " ++ w.direction.wireName
        w.toSwap = .error message ∧
          (w.time.Valid → Swap.ofJson w.toJson = .error (.rejected message))) :=
  have valid : (⟨1768917900, 0⟩ : Instant).Valid := ⟨by decide, Or.inl (by decide)⟩
  ⟨valid, valid, Swap.wire_roundTrip _ _⟩

end SwapDesk
