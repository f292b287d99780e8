/-! # Rounding doubles to decimal places

`roundHalfAway` is C's `round` on the unpacked double: halves away from zero, the sign kept
(`-0.3` rounds to `-0.0`). `powi` is compiled code's power by repeated squaring, rounding at each
step; `roundTo` scales by `10^d`, rounds and scales back.
-/

namespace SwapDesk

open Float.Model in
def roundHalfAway (x : Float) : Float :=
  match x.toModel.unpack with
  | .finite sign m e _ =>
    if 0 ≤ e then x
    else
      let unit := Nat.pow 2 (-e).toNat
      let whole := if 2 * (m % unit) ≥ unit then m / unit + 1 else m / unit
      .ofModel (pack (if whole = 0 then .zero sign else UnpackedFloat.round .binary64 sign whole 0))
  | _ => x

/-- Repeated squaring over the bits of `n`, lowest first, for `n ≥ 0`. -/
def powiLoop (a r : Float) (n : Nat) : Float :=
  let r := if n % 2 = 1 then r * a else r
  if n / 2 = 0 then r else powiLoop (a * a) r (n / 2)
termination_by n
decreasing_by omega

def powi (x : Float) (n : Int) : Float :=
  let r := powiLoop x 1.0 n.natAbs
  if n < 0 then 1.0 / r else r

/-- `x` rounded to `d` decimal places: `round(x · 10^d) / 10^d`, halves away from zero. -/
def roundTo (x : Float) (d : Int) : Float :=
  let factor := powi 10.0 d
  roundHalfAway (x * factor) / factor

end SwapDesk
