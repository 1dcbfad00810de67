import Genesis.Timing

/-!
# Configurations

A configuration chooses the region, the variant of the console and, optionally, another clock
budget. Its text has one member on a line; a text that leaves fields out means their defaults.
-/

namespace Genesis

structure Configuration where
  /-- Fifty frames a second instead of sixty. -/
  pal : Bool := false
  /-- The Japanese variant of the console. -/
  japanese : Bool := false
  romWriteable : Bool := false
  /-- A clock budget other than the current one. -/
  timing : Option Timing := none
deriving DecidableEq, Repr

namespace Configuration

def fields : List (Json.Field Configuration) :=
  [.of "pal" Json.boolean fun c x => { c with pal := x },
   .of "japanese" Json.boolean fun c x => { c with japanese := x },
   .of "rom_writeable" Json.boolean fun c x => { c with romWriteable := x },
   .of "timing" (Json.optional Timing.read) fun c x => { c with timing := x }]

def read (s : List Char) : Except Json.Fault (Configuration × List Char) :=
  Json.record fields {} s

def parse (text : String) : Except Json.Fault Configuration := Json.document read text.toList

def members (c : Configuration) : List Json.Member :=
  [⟨"pal", Json.printBool c.pal⟩,
   ⟨"japanese", Json.printBool c.japanese⟩,
   ⟨"rom_writeable", Json.printBool c.romWriteable⟩,
   ⟨"timing", match c.timing with
     | none => Json.printNull
     | some t => Json.prettyObject 1 t.members⟩]

def print (c : Configuration) : String := String.ofList (Json.prettyObject 0 c.members)

end Configuration
end Genesis
