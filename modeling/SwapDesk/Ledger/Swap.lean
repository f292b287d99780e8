import SwapDesk.Calendar.Instant
import SwapDesk.Text.Lower
import SwapDesk.Ledger.QueryError

/-! # Swaps of the vault

A swap's direction fixes both its tokens, so a `Swap` stores the direction only; its wire form
`SwapWire` writes the tokens out, and reading it back checks that they agree.
-/

namespace SwapDesk

/-- A token of the vault: SOL is the first leg, USDC the second. -/
inductive Token where
  | sol
  | usdc
  deriving DecidableEq, Repr

namespace Token

def symbol : Token → String
  | .sol => "SOL"
  | .usdc => "USDC"

/-- The number of decimals an amount of the token is shown with. -/
def places : Token → Nat
  | .sol => 4
  | .usdc => 2

end Token

inductive Direction where
  | solToUsdc
  | usdcToSol
  deriving DecidableEq, Repr

namespace Direction

/-- Both directions, in the order a random choice draws from. -/
def all : List Direction := [.solToUsdc, .usdcToSol]

def wireName : Direction → String
  | .solToUsdc => "SOL_TO_USDC"
  | .usdcToSol => "USDC_TO_SOL"

def label : Direction → String
  | .solToUsdc => "SOL → USDC"
  | .usdcToSol => "USDC → SOL"

def tokenIn : Direction → Token
  | .solToUsdc => .sol
  | .usdcToSol => .usdc

def tokenOut : Direction → Token
  | .solToUsdc => .usdc
  | .usdcToSol => .sol

/-- Reads a direction from a query text: trimmed, lower-cased, and one of `sol_to_usdc`,
`a_to_b`, `usdc_to_sol`, `b_to_a`. -/
def parse (s : String) : Except QueryError Direction :=
  match lowerCase (trimBlank s) with
  | "sol_to_usdc" | "a_to_b" => .ok .solToUsdc
  | "usdc_to_sol" | "b_to_a" => .ok .usdcToSol
  | _ => .error (.unknownDirection s)

end Direction

inductive Status where
  | pending
  | confirmed
  | failed
  deriving DecidableEq, Repr

namespace Status

def name : Status → String
  | .pending => "pending"
  | .confirmed => "confirmed"
  | .failed => "failed"

/-- Reads a status from a query text: trimmed, lower-cased, and one of the three names. -/
def parse (s : String) : Except QueryError Status :=
  match lowerCase (trimBlank s) with
  | "pending" => .ok .pending
  | "confirmed" => .ok .confirmed
  | "failed" => .ok .failed
  | _ => .error (.unknownStatus s)

end Status

structure Swap where
  id : UInt32
  time : Instant
  direction : Direction
  amountIn : Float
  amountOut : Float
  slippageBps : UInt32
  fee : Float
  status : Status
  signature : String

namespace Swap

def tokenIn (s : Swap) : Token := s.direction.tokenIn

def tokenOut (s : Swap) : Token := s.direction.tokenOut

end Swap

structure SwapWire where
  id : UInt32
  time : Instant
  direction : Direction
  amountIn : Float
  tokenIn : Token
  amountOut : Float
  tokenOut : Token
  slippageBps : UInt32
  fee : Float
  status : Status
  signature : String

def Swap.toWire (s : Swap) : SwapWire :=
  ⟨s.id, s.time, s.direction, s.amountIn, s.tokenIn, s.amountOut, s.tokenOut,
    s.slippageBps, s.fee, s.status, s.signature⟩

def SwapWire.mismatchMessage (w : SwapWire) : String :=
  "record " ++ toString w.id ++ ": tokens " ++ w.tokenIn.symbol ++ " -> " ++ w.tokenOut.symbol ++
    " do not match type " ++ w.direction.wireName

/-- The swap of a wire form, if its tokens are those of its direction. -/
def SwapWire.toSwap (w : SwapWire) : Except String Swap :=
  if w.tokenIn = w.direction.tokenIn ∧ w.tokenOut = w.direction.tokenOut then
    .ok ⟨w.id, w.time, w.direction, w.amountIn, w.amountOut, w.slippageBps, w.fee, w.status,
      w.signature⟩
  else .error w.mismatchMessage

end SwapDesk
