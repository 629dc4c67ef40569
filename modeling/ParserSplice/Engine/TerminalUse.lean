set_option autoImplicit false

namespace ParserSplice

/-- The role in which a terminal appears. -/
inductive TerminalUse where
  | shiftable
  | layout
  | transparent
deriving DecidableEq, Repr

namespace TerminalUse

def mask : TerminalUse → UInt8
  | shiftable => 1
  | layout => 2
  | transparent => 4

/-- The mask of a terminal that has not appeared. -/
def unconstrained : UInt8 := 7

/-- The masks of the terminals below `count` after a list of appearances. -/
def masks (count : Nat) (appearances : List (Nat × TerminalUse)) : List UInt8 :=
  appearances.foldl (fun uses a => uses.modify a.1 (· &&& a.2.mask))
    (List.replicate count unconstrained)

private theorem length_restrict (appearances : List (Nat × TerminalUse)) (uses : List UInt8) :
    (appearances.foldl (fun uses a => uses.modify a.1 (· &&& a.2.mask)) uses).length =
      uses.length := by
  induction appearances generalizing uses with
  | nil => rfl
  | cons a rest ih => simp [ih]

theorem length_masks (count : Nat) (appearances : List (Nat × TerminalUse)) :
    (masks count appearances).length = count := by
  simp [masks, length_restrict]

/-- The mask of a terminal in a fragment. The host only ever shifts. In an extension a terminal
shared with the host keeps the bits that both fragments leave it. -/
def conjoined (hostUses : List UInt8) (extensionUses : List (List UInt8))
    (fragment terminal : Nat) : UInt8 :=
  match fragment with
  | 0 => mask .shiftable
  | extension + 1 =>
    let own := (extensionUses[extension]?.bind (fun uses => uses[terminal]?)).getD 0
    match hostUses[terminal]? with
    | some host => host &&& own
    | none => own

end TerminalUse

end ParserSplice
