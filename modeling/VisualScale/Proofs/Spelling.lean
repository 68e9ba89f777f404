import Mathlib.Data.List.Sort
import VisualScale.Proofs.Identifier
import VisualScale.Text.Compatibility

/-!
# The one spelling of an identifier is an identifier

A name is known by its one spelling, which is made of other characters than the name, in another
order. Still it is an identifier if the name is (`isIdentifier_normalized`): taking apart, ordering
and composing each keep this.

What the tables have to do with identifiers is checked once, entry by entry. So that this does not
ask the long tables of identifier characters each time, the characters that occur are sorted into
`blocks`, and the blocks are checked against those tables (`standing_of_mem_blocks`).
-/

namespace VisualScale.Text

/-! ## 1. Blocks -/

/-- A block of code points whose characters stand in the same places of identifiers: whether they
    may begin one, and whether they may go on with one. -/
structure Block where
  low : Nat
  high : Nat
  first : Bool
  inner : Bool
  deriving DecidableEq

/-- The code point lies in the block. -/
def Block.holds (b : Block) (n : Nat) : Bool := b.low.ble n && n.ble b.high

/-- The blocks of the characters that spellings and composed forms are made of, and of the combining
    marks; those that are needed most often come first. -/
def blocks : List Block :=
  [ ⟨0x620, 0x64a, true, true⟩, ⟨0x300, 0x36f, false, true⟩, ⟨0x4e00, 0xa48c, true, true⟩
  , ⟨0x61, 0x7a, true, true⟩, ⟨0x41, 0x5a, true, true⟩, ⟨0xf8, 0x2c1, true, true⟩
  , ⟨0x1e00, 0x1f15, true, true⟩, ⟨0x3a3, 0x3f5, true, true⟩, ⟨0x671, 0x6d3, true, true⟩
  , ⟨0x10fc, 0x1248, true, true⟩, ⟨0x38e, 0x3a1, true, true⟩, ⟨0x30a1, 0x30fa, true, true⟩
  , ⟨0x20000, 0x2a6df, true, true⟩, ⟨0x2189, 0x2bff, false, false⟩, ⟨0x1f20, 0x1f45, true, true⟩
  , ⟨0x64b, 0x669, false, true⟩, ⟨0x3400, 0x4dbf, true, true⟩, ⟨0x30, 0x39, false, true⟩
  , ⟨0x3f7, 0x481, true, true⟩, ⟨0x3099, 0x309a, false, true⟩, ⟨0x1f5f, 0x1f7d, true, true⟩
  , ⟨0xd8, 0xf6, true, true⟩, ⟨0x3041, 0x3096, true, true⟩, ⟨0x1f80, 0x1fb4, true, true⟩
  , ⟨0x1d7ce, 0x1d7ff, false, true⟩, ⟨0x5d0, 0x5ea, true, true⟩, ⟨0xc0, 0xd6, true, true⟩
  , ⟨0x48a, 0x52f, true, true⟩, ⟨0x591, 0x5bd, false, true⟩, ⟨0xf99, 0xfbc, false, true⟩
  , ⟨0x1b34, 0x1b44, false, true⟩, ⟨0xf71, 0xf84, false, true⟩, ⟨0x1f50, 0x1f57, true, true⟩
  , ⟨0x904, 0x939, true, true⟩, ⟨0x1b05, 0x1b33, true, true⟩, ⟨0x560, 0x588, true, true⟩
  , ⟨0x1fe0, 0x1fec, true, true⟩, ⟨0x93a, 0x93c, false, true⟩, ⟨0x1fbf0, 0x1fbf9, false, true⟩
  , ⟨0xff10, 0xff19, false, true⟩, ⟨0x1f48, 0x1f4d, true, true⟩, ⟨0x1f18, 0x1f1d, true, true⟩
  , ⟨0x114b0, 0x114c3, false, true⟩, ⟨0x1d00, 0x1dbf, true, true⟩, ⟨0xdd8, 0xddf, false, true⟩
  , ⟨0x1fb6, 0x1fbc, true, true⟩, ⟨0x1df00, 0x1df1e, true, true⟩, ⟨0x11127, 0x11134, false, true⟩
  , ⟨0x11083, 0x110af, true, true⟩, ⟨0x1ff6, 0x1ffc, true, true⟩, ⟨0x1fc6, 0x1fcc, true, true⟩
  , ⟨0xa3c, 0xa3c, false, true⟩, ⟨0x5f, 0x5f, true, true⟩, ⟨0x1fd6, 0x1fdb, true, true⟩
  , ⟨0xcc6, 0xcc8, false, true⟩, ⟨0x6d5, 0x6d5, true, true⟩, ⟨0x670, 0x670, false, true⟩
  , ⟨0x115b8, 0x115c0, false, true⟩, ⟨0x1fbf, 0x1fc1, false, false⟩, ⟨0x1f59, 0x1f59, true, true⟩
  , ⟨0xf49, 0xf6c, true, true⟩, ⟨0xcd5, 0xcd6, false, true⟩, ⟨0xb47, 0xb48, false, true⟩
  , ⟨0x66e, 0x66f, true, true⟩, ⟨0x5c1, 0x5c2, false, true⟩, ⟨0x110b0, 0x110ba, false, true⟩
  , ⟨0x30fc, 0x30ff, true, true⟩, ⟨0x1ffd, 0x203e, false, false⟩, ⟨0x1ff2, 0x1ff4, true, true⟩
  , ⟨0x1fdc, 0x1fdf, false, false⟩, ⟨0x1fd0, 0x1fd3, true, true⟩, ⟨0x1fcd, 0x1fcf, false, false⟩
  , ⟨0x1fc2, 0x1fc4, true, true⟩, ⟨0xf8d, 0xf97, false, true⟩, ⟨0xd4a, 0xd4d, false, true⟩
  , ⟨0xd46, 0xd48, false, true⟩, ⟨0xcca, 0xccd, false, true⟩, ⟨0xcbe, 0xcc4, false, true⟩
  , ⟨0xbca, 0xbcd, false, true⟩, ⟨0xbc6, 0xbc8, false, true⟩, ⟨0xa13, 0xa28, true, true⟩
  , ⟨0x9bc, 0x9bc, false, true⟩, ⟨0x5bf, 0x5bf, false, true⟩, ⟨0x388, 0x38a, true, true⟩
  , ⟨0xb7, 0xb7, false, true⟩, ⟨0x80, 0xa9, false, false⟩, ⟨0x3a, 0x40, false, false⟩
  , ⟨0x11930, 0x11935, false, true⟩, ⟨0x115af, 0x115b5, false, true⟩
  , ⟨0x1134b, 0x1134d, false, true⟩, ⟨0x11347, 0x11348, false, true⟩
  , ⟨0xff9e, 0xff9f, false, true⟩, ⟨0xab5c, 0xab69, true, true⟩, ⟨0xab30, 0xab5a, true, true⟩
  , ⟨0xa722, 0xa788, true, true⟩, ⟨0x309d, 0x309f, true, true⟩, ⟨0x1000, 0x102a, true, true⟩
  , ⟨0xf40, 0xf47, true, true⟩, ⟨0xea7, 0xeb0, true, true⟩, ⟨0xe8c, 0xea3, true, true⟩
  , ⟨0xdca, 0xdca, false, true⟩, ⟨0xd3e, 0xd44, false, true⟩, ⟨0xc46, 0xc48, false, true⟩
  , ⟨0xbd7, 0xbd7, false, true⟩, ⟨0xbbe, 0xbc2, false, true⟩, ⟨0xb92, 0xb95, true, true⟩
  , ⟨0xb55, 0xb57, false, true⟩, ⟨0xb4b, 0xb4d, false, true⟩, ⟨0xb3c, 0xb3c, false, true⟩
  , ⟨0xb13, 0xb28, true, true⟩, ⟨0x9cb, 0x9cd, false, true⟩, ⟨0x9c7, 0x9c8, false, true⟩
  , ⟨0x993, 0x9a8, true, true⟩, ⟨0x2c6, 0x2d1, true, true⟩, ⟨0x11937, 0x11938, false, true⟩
  , ⟨0x11357, 0x11357, false, true⟩, ⟨0x1133e, 0x11344, false, true⟩, ⟨0xa78b, 0xa7ca, true, true⟩
  , ⟨0x2d30, 0x2d67, true, true⟩, ⟨0x2c00, 0x2ce4, true, true⟩, ⟨0x1fed, 0x1ff1, false, false⟩
  , ⟨0x1f5d, 0x1f5d, true, true⟩, ⟨0x1f5b, 0x1f5b, true, true⟩, ⟨0x10d0, 0x10fa, true, true⟩
  , ⟨0x102b, 0x103e, false, true⟩, ⟨0xec8, 0xecd, false, true⟩, ⟨0xeb3, 0xebc, false, true⟩
  , ⟨0xeb2, 0xeb2, true, true⟩, ⟨0xe47, 0xe4e, false, true⟩, ⟨0xe33, 0xe3a, false, true⟩
  , ⟨0xe32, 0xe32, true, true⟩, ⟨0xdcf, 0xdd4, false, true⟩, ⟨0xd57, 0xd57, false, true⟩
  , ⟨0xc55, 0xc56, false, true⟩, ⟨0xb3e, 0xb44, false, true⟩, ⟨0xa38, 0xa39, true, true⟩
  , ⟨0xa32, 0xa33, true, true⟩, ⟨0xa2a, 0xa30, true, true⟩, ⟨0x9d7, 0x9d7, false, true⟩
  , ⟨0x9be, 0x9c4, false, true⟩, ⟨0x9aa, 0x9b0, true, true⟩, ⟨0x5ef, 0x5f2, true, true⟩
  , ⟨0x38c, 0x38c, true, true⟩, ⟨0x387, 0x387, false, true⟩, ⟨0x386, 0x386, true, true⟩
  , ⟨0x380, 0x385, false, false⟩, ⟨0x1e944, 0x1e94a, false, true⟩, ⟨0x1e8d0, 0x1e8d6, false, true⟩
  , ⟨0x1e2ec, 0x1e2f9, false, true⟩, ⟨0x1e2ae, 0x1e2ae, false, true⟩
  , ⟨0x1e130, 0x1e136, false, true⟩, ⟨0x1e026, 0x1e02a, false, true⟩
  , ⟨0x1e023, 0x1e024, false, true⟩, ⟨0x1e01b, 0x1e021, false, true⟩
  , ⟨0x1e008, 0x1e018, false, true⟩, ⟨0x1e000, 0x1e006, false, true⟩
  , ⟨0x1d242, 0x1d244, false, true⟩, ⟨0x1d1aa, 0x1d1ad, false, true⟩
  , ⟨0x1d185, 0x1d18b, false, true⟩, ⟨0x1d17b, 0x1d182, false, true⟩
  , ⟨0x1d16d, 0x1d172, false, true⟩, ⟨0x1d165, 0x1d169, false, true⟩
  , ⟨0x1bc9d, 0x1bc9e, false, true⟩, ⟨0x16ff0, 0x16ff1, false, true⟩
  , ⟨0x16b30, 0x16b36, false, true⟩, ⟨0x16af0, 0x16af4, false, true⟩
  , ⟨0x11d93, 0x11d97, false, true⟩, ⟨0x11d3f, 0x11d45, false, true⟩
  , ⟨0x11c38, 0x11c3f, false, true⟩, ⟨0x11a8a, 0x11a99, false, true⟩
  , ⟨0x11a47, 0x11a47, false, true⟩, ⟨0x11a33, 0x11a39, false, true⟩
  , ⟨0x119da, 0x119e0, false, true⟩, ⟨0x11942, 0x11943, false, true⟩
  , ⟨0x1193b, 0x1193e, false, true⟩, ⟨0x1182c, 0x1183a, false, true⟩
  , ⟨0x1171d, 0x1172b, false, true⟩, ⟨0x116ab, 0x116b7, false, true⟩
  , ⟨0x11630, 0x11640, false, true⟩, ⟨0x1145e, 0x1145e, false, true⟩
  , ⟨0x11435, 0x11446, false, true⟩, ⟨0x11370, 0x11374, false, true⟩
  , ⟨0x11366, 0x1136c, false, true⟩, ⟨0x1133b, 0x1133c, false, true⟩
  , ⟨0x112df, 0x112ea, false, true⟩, ⟨0x1122c, 0x11237, false, true⟩
  , ⟨0x111c9, 0x111cc, false, true⟩, ⟨0x111b3, 0x111c0, false, true⟩
  , ⟨0x11173, 0x11173, false, true⟩, ⟨0x11100, 0x11102, false, true⟩
  , ⟨0x1107f, 0x11082, false, true⟩, ⟨0x11066, 0x11070, false, true⟩
  , ⟨0x11038, 0x11046, false, true⟩, ⟨0x10f82, 0x10f85, false, true⟩
  , ⟨0x10f46, 0x10f50, false, true⟩, ⟨0x10eab, 0x10eac, false, true⟩
  , ⟨0x10d24, 0x10d27, false, true⟩, ⟨0x10ae5, 0x10ae6, false, true⟩
  , ⟨0x10a3f, 0x10a3f, false, true⟩, ⟨0x10a38, 0x10a3a, false, true⟩
  , ⟨0x10a0c, 0x10a0f, false, true⟩, ⟨0x10376, 0x1037a, false, true⟩
  , ⟨0x102e0, 0x102e0, false, true⟩, ⟨0x101fd, 0x101fd, false, true⟩
  , ⟨0xfe20, 0xfe2f, false, true⟩, ⟨0xfb1e, 0xfb1e, false, true⟩, ⟨0xac00, 0xd7a3, true, true⟩
  , ⟨0xabec, 0xabed, false, true⟩, ⟨0xaaf5, 0xaaf6, false, true⟩, ⟨0xaac1, 0xaac1, false, true⟩
  , ⟨0xaabe, 0xaabf, false, true⟩, ⟨0xaab7, 0xaab8, false, true⟩, ⟨0xaab2, 0xaab4, false, true⟩
  , ⟨0xaab0, 0xaab0, false, true⟩, ⟨0xa9b3, 0xa9c0, false, true⟩, ⟨0xa947, 0xa953, false, true⟩
  , ⟨0xa926, 0xa92d, false, true⟩, ⟨0xa8e0, 0xa8f1, false, true⟩, ⟨0xa8b4, 0xa8c5, false, true⟩
  , ⟨0xa82c, 0xa82c, false, true⟩, ⟨0xa806, 0xa806, false, true⟩, ⟨0xa6f0, 0xa6f1, false, true⟩
  , ⟨0xa69e, 0xa69f, false, true⟩, ⟨0xa674, 0xa67d, false, true⟩, ⟨0xa66f, 0xa66f, false, true⟩
  , ⟨0x302a, 0x302f, false, true⟩, ⟨0x2de0, 0x2dff, false, true⟩, ⟨0x2d7f, 0x2d7f, false, true⟩
  , ⟨0x2cef, 0x2cf1, false, true⟩, ⟨0x20e5, 0x20f0, false, true⟩, ⟨0x20e1, 0x20e1, false, true⟩
  , ⟨0x20d0, 0x20dc, false, true⟩, ⟨0x1dc0, 0x1dff, false, true⟩, ⟨0x1cf7, 0x1cf9, false, true⟩
  , ⟨0x1cf4, 0x1cf4, false, true⟩, ⟨0x1ced, 0x1ced, false, true⟩, ⟨0x1cd4, 0x1ce8, false, true⟩
  , ⟨0x1cd0, 0x1cd2, false, true⟩, ⟨0x1c24, 0x1c37, false, true⟩, ⟨0x1be6, 0x1bf3, false, true⟩
  , ⟨0x1ba1, 0x1bad, false, true⟩, ⟨0x1b6b, 0x1b73, false, true⟩, ⟨0x1abf, 0x1ace, false, true⟩
  , ⟨0x1ab0, 0x1abd, false, true⟩, ⟨0x1a7f, 0x1a89, false, true⟩, ⟨0x1a60, 0x1a7c, false, true⟩
  , ⟨0x1a17, 0x1a1b, false, true⟩, ⟨0x1930, 0x193b, false, true⟩, ⟨0x18a9, 0x18a9, false, true⟩
  , ⟨0x17dd, 0x17dd, false, true⟩, ⟨0x17b4, 0x17d3, false, true⟩, ⟨0x1732, 0x1734, false, true⟩
  , ⟨0x1712, 0x1715, false, true⟩, ⟨0x135d, 0x135f, false, true⟩, ⟨0x1082, 0x108d, false, true⟩
  , ⟨0xfc6, 0xfc6, false, true⟩, ⟨0xf86, 0xf87, false, true⟩, ⟨0xf39, 0xf39, false, true⟩
  , ⟨0xf37, 0xf37, false, true⟩, ⟨0xf35, 0xf35, false, true⟩, ⟨0xf18, 0xf19, false, true⟩
  , ⟨0xd3b, 0xd3c, false, true⟩, ⟨0xcbc, 0xcbc, false, true⟩, ⟨0xc4a, 0xc4d, false, true⟩
  , ⟨0xc3c, 0xc3c, false, true⟩, ⟨0xacb, 0xacd, false, true⟩, ⟨0xabc, 0xabc, false, true⟩
  , ⟨0xa4b, 0xa4d, false, true⟩, ⟨0x9fe, 0x9fe, false, true⟩, ⟨0x951, 0x957, false, true⟩
  , ⟨0x93e, 0x94f, false, true⟩, ⟨0x8e3, 0x903, false, true⟩, ⟨0x8ca, 0x8e1, false, true⟩
  , ⟨0x898, 0x89f, false, true⟩, ⟨0x859, 0x85b, false, true⟩, ⟨0x829, 0x82d, false, true⟩
  , ⟨0x825, 0x827, false, true⟩, ⟨0x81b, 0x823, false, true⟩, ⟨0x816, 0x819, false, true⟩
  , ⟨0x7fd, 0x7fd, false, true⟩, ⟨0x7eb, 0x7f3, false, true⟩, ⟨0x730, 0x74a, false, true⟩
  , ⟨0x711, 0x711, false, true⟩, ⟨0x6ea, 0x6ed, false, true⟩, ⟨0x6e7, 0x6e8, false, true⟩
  , ⟨0x6df, 0x6e4, false, true⟩, ⟨0x6d6, 0x6dc, false, true⟩, ⟨0x610, 0x61a, false, true⟩
  , ⟨0x5c7, 0x5c7, false, true⟩, ⟨0x5c4, 0x5c5, false, true⟩, ⟨0x483, 0x487, false, true⟩ ]

/-- The block of a character. -/
def blockOf? (c : Char) : Option Block := blocks.find? fun b => b.holds c.toNat

/-- The blocks outside ASCII, in order. -/
def wideBlocks : List Block :=
  (blocks.filter fun b => Nat.ble 128 b.low).insertionSort fun a b => a.low ≤ b.low

/-! ## 2. Tables -/

section

variable {α : Type} {check : List Char → Bool} {cs acc : List Char} {s : String}

/-- A check of the characters that strings write, one string after the other. -/
theorem check_cons (check : List Char → Bool) {rest : List String} (hs : s = .ofList cs)
    (h : check (acc ++ cs ++ rest.flatMap String.toList) = true) :
    check (acc ++ (s :: rest).flatMap String.toList) = true := by
  rwa [List.flatMap_cons, hs, String.toList_ofList, ← List.append_assoc]

theorem check_toList (check : List Char → Bool) (hs : s = .ofList cs) (h : check cs = true) :
    check s.toList = true := by
  rwa [hs, String.toList_ofList]

/-- What is read from a table, if no entry is spread over two of its strings. -/
theorem forall_mem_of_tables {read : List Char → List α} {W : List Char → Prop} {P : α → Prop}
    (hnil : read [] = []) (happend : ∀ as bs, W as → read (as ++ bs) = read as ++ read bs)
    {tables : List String}
    (h : ∀ s ∈ tables, W s.toList ∧ ∀ a ∈ read s.toList, P a) :
    ∀ a ∈ read (tables.flatMap String.toList), P a := by
  induction tables with
  | nil => exact fun a ha => absurd (hnil ▸ ha) List.not_mem_nil
  | cons s rest ih =>
    obtain ⟨⟨hwhole, hs⟩, hrest⟩ := List.forall_mem_cons.1 h
    rw [List.flatMap_cons, happend _ _ hwhole]
    exact List.forall_mem_append.2 ⟨hs, ih hrest⟩

end

/-! ## 3. Blocks against the runs of identifier characters -/

/-- Of blocks and runs, both in order, each block lies inside a run or else outside all of them. -/
def agree (inside : Block → Bool) (runs : List (Char × Char)) : List Block → Bool
  | [] => true
  | b :: bs =>
    let rest := runs.dropWhile fun r => r.2.toNat.blt b.low
    (match rest with
      | [] => !inside b
      | r :: _ =>
        if b.high.blt r.1.toNat then !inside b
        else inside b && (r.1.toNat.ble b.low && b.high.ble r.2.toNat)) && agree inside rest bs

/-- The runs that characters write are in order, and agree with the blocks. -/
def fitsBlocks (inside : Block → Bool) (cs : List Char) : Bool :=
  decide ((runsOf cs).IsChain fun a b => a.1 ≤ b.1) && agree inside (runsOf cs) wideBlocks

-- the tables are long lists of characters
set_option maxRecDepth 10000 in
theorem fitsBlocks_start :
    fitsBlocks Block.first (identifierStartRuns.flatMap String.toList) = true := by
  rw [← List.nil_append (List.flatMap _ _)]
  unfold identifierStartRuns
  iterate 15 refine check_cons (fitsBlocks _) rfl ?_
  decide +kernel


set_option maxRecDepth 10000 in
theorem fitsBlocks_part :
    fitsBlocks Block.inner (identifierPartRuns.flatMap String.toList) = true := by
  rw [← List.nil_append (List.flatMap _ _)]
  unfold identifierPartRuns
  iterate 18 refine check_cons (fitsBlocks _) rfl ?_
  decide +kernel

/-- The block lies in ASCII, where its characters stand in the places of the block, or outside. -/
def Block.fitsAscii (b : Block) : Bool :=
  Nat.ble 128 b.low || b.high.blt 128 && (List.range 128).all fun n => !b.holds n ||
    isIdentifierStart (.ofNat n) == b.first && isIdentifierPart (.ofNat n) == b.inner

theorem fitsAscii_blocks : blocks.all Block.fitsAscii = true := by decide +kernel

section

variable {b : Block} {c : Char} {inside : Block → Bool} {runs : List (Char × Char)}
variable {bs : List Block}

theorem Block.holds_iff {n : Nat} : b.holds n = true ↔ b.low ≤ n ∧ n ≤ b.high := by
  unfold Block.holds
  rw [Bool.and_eq_true, Nat.ble_eq, Nat.ble_eq]

theorem inRuns_append (as bs : List (Char × Char)) (c : Char) :
    inRuns (as ++ bs) c = (inRuns as c || inRuns bs c) := List.any_append

theorem inRuns_eq_false_iff :
    inRuns runs c = false ↔ ∀ r ∈ runs, c.toNat < r.1.toNat ∨ r.2.toNat < c.toNat := by
  unfold inRuns
  rw [List.any_eq_false]
  refine forall₂_congr fun r _ => ?_
  simp only [Bool.and_eq_true, decide_eq_true_eq, Char.le_def, UInt32.le_iff_toNat_le]
  show ¬ (r.1.toNat ≤ c.toNat ∧ c.toNat ≤ r.2.toNat) ↔ _
  omega

/-- The runs that end before a block do not matter to the characters from there on. -/
theorem inRuns_dropWhile (h : b.low ≤ c.toNat) :
    inRuns runs c = inRuns (runs.dropWhile fun r => r.2.toNat.blt b.low) c := by
  have hbefore : inRuns (runs.takeWhile fun r => r.2.toNat.blt b.low) c = false := by
    refine inRuns_eq_false_iff.2 fun r hr => .inr ?_
    have hlt : r.2.toNat < b.low := Nat.blt_eq.mp (List.all_eq_true.1 List.all_takeWhile r hr)
    omega
  conv_lhs => rw [← List.takeWhile_append_dropWhile (p := fun r => r.2.toNat.blt b.low) (l := runs)]
  rw [inRuns_append, hbefore, Bool.false_or]

theorem inRuns_of_agree (hruns : runs.Pairwise fun r r' => r.1 ≤ r'.1)
    (hbs : bs.Pairwise fun b b' => b.low ≤ b'.low) (h : agree inside runs bs = true) (hb : b ∈ bs)
    (hc : b.holds c.toNat = true) : inRuns runs c = inside b := by
  induction bs generalizing runs with
  | nil => cases hb
  | cons b' bs ih =>
    obtain ⟨hfirst, hrest⟩ := Bool.and_eq_true _ _ |>.mp h
    obtain ⟨hle, hbs⟩ := List.pairwise_cons.1 hbs
    have hdrop := hruns.sublist (List.dropWhile_sublist fun r => r.2.toNat.blt b'.low)
    obtain ⟨hlow, hhigh⟩ := Block.holds_iff.1 hc
    rcases List.mem_cons.1 hb with rfl | hb
    · rw [inRuns_dropWhile hlow]
      generalize runs.dropWhile _ = rest at hfirst hdrop
      cases rest with
      | nil => simpa [inRuns] using hfirst
      | cons r rest =>
        dsimp only at hfirst
        split at hfirst
        · next hapart =>
          rw [Nat.blt_eq] at hapart
          have hnone : inRuns (r :: rest) c = false := by
            refine inRuns_eq_false_iff.2 fun r' hr' => .inl ?_
            have hr : r.1.toNat ≤ r'.1.toNat := by
              rcases List.mem_cons.1 hr' with rfl | hr'
              · exact Nat.le_refl _
              · exact UInt32.le_iff_toNat_le.1 ((List.pairwise_cons.1 hdrop).1 r' hr')
            omega
          rw [hnone]
          simpa using hfirst
        · simp only [Bool.and_eq_true, Nat.ble_eq] at hfirst
          have hin : inRuns (r :: rest) c = true := by
            refine List.any_eq_true.2 ⟨r, List.mem_cons_self, ?_⟩
            simp only [Bool.and_eq_true, decide_eq_true_eq, Char.le_def, UInt32.le_iff_toNat_le]
            exact ⟨Nat.le_trans hfirst.2.1 hlow, Nat.le_trans hhigh hfirst.2.2⟩
          rw [hin, hfirst.1]
    · have hlow' : b'.low ≤ c.toNat := Nat.le_trans (hle b hb) hlow
      rw [inRuns_dropWhile hlow']
      exact ih hdrop hbs hrest hb

theorem pairwise_wideBlocks : wideBlocks.Pairwise fun b b' => b.low ≤ b'.low := by
  have : Std.Total fun b b' : Block => b.low ≤ b'.low := ⟨fun b b' => Nat.le_total b.low b'.low⟩
  have : IsTrans Block fun b b' => b.low ≤ b'.low := ⟨fun _ _ _ => Nat.le_trans⟩
  exact List.pairwise_insertionSort _ _

theorem inRuns_of_fitsBlocks {tables : List String}
    (h : fitsBlocks inside (tables.flatMap String.toList) = true) (hb : b ∈ blocks)
    (hlow : 128 ≤ b.low) (hc : b.holds c.toNat = true) :
    inRuns (runsOf (tables.flatMap String.toList)) c = inside b := by
  obtain ⟨hchain, hagree⟩ := Bool.and_eq_true _ _ |>.mp h
  have hruns := List.isChain_iff_pairwise.1 (of_decide_eq_true hchain)
  have hmem : b ∈ wideBlocks :=
    (List.mem_insertionSort _).2 (List.mem_filter.2 ⟨hb, Nat.ble_eq.mpr hlow⟩)
  exact inRuns_of_agree hruns pairwise_wideBlocks hagree hmem hc

/-- **The characters of a block stand in its places.** -/
theorem standing_of_mem_blocks (hb : b ∈ blocks) (hc : b.holds c.toNat = true) :
    isIdentifierStart c = b.first ∧ isIdentifierPart c = b.inner := by
  have hfits := List.all_eq_true.1 fitsAscii_blocks b hb
  obtain ⟨hlow, hhigh⟩ := Block.holds_iff.1 hc
  rcases Bool.or_eq_true _ _ |>.mp hfits with hwide | hascii
  · have hwide : 128 ≤ b.low := Nat.ble_eq.mp hwide
    have hc' : isAscii c = false := decide_eq_false (by omega)
    unfold isIdentifierStart isIdentifierPart
    rw [hc', if_neg Bool.false_ne_true, if_neg Bool.false_ne_true]
    exact ⟨inRuns_of_fitsBlocks fitsBlocks_start hb hwide hc,
      inRuns_of_fitsBlocks fitsBlocks_part hb hwide hc⟩
  · obtain ⟨hnarrow, hall⟩ := Bool.and_eq_true _ _ |>.mp hascii
    have hn : c.toNat < 128 := Nat.lt_of_le_of_lt hhigh (Nat.blt_eq.mp hnarrow)
    have hchar := List.all_eq_true.1 hall c.toNat (List.mem_range.2 hn)
    rw [hc, Bool.not_true, Bool.false_or, Bool.and_eq_true, beq_iff_eq, beq_iff_eq,
      Char.ofNat_toNat] at hchar
    exact hchar

end

/-! ## 4. What the tables do to identifiers -/

/-- Characters that stand for one character keep its places: they go on with an identifier if it
    does, and are an identifier if it begins one. -/
structure Keeps (c : Char) (cs : List Char) : Prop where
  inner : isIdentifierPart c = true → ∀ d ∈ cs, isIdentifierPart d = true
  first : isIdentifierStart c = true → isIdentifier cs = true

/-- The composed form stands where its letter does, if the mark goes on with an identifier. -/
structure Composite.Stands (x : Composite) : Prop where
  first : isIdentifierStart x.composed = (isIdentifierStart x.base && isIdentifierPart x.mark)
  inner : isIdentifierPart x.composed = (isIdentifierPart x.base && isIdentifierPart x.mark)

/-- The entry keeps the places of its character, by the blocks. -/
def keepsByBlocks : Char × List Char → Bool
  | (_, []) => false
  | (c, d :: rest) => (d :: rest).all (fun e => (blockOf? e).any Block.inner) &&
      ((blockOf? d).any Block.first || (blockOf? c).any fun b => !b.first)

/-- The composite stands where its letter does, by the blocks. -/
def standsByBlocks (x : Composite) : Bool :=
  match blockOf? x.base, blockOf? x.mark, blockOf? x.composed with
  | some b, some m, some c => c.first == (b.first && m.inner) && c.inner == (b.inner && m.inner)
  | _, _, _ => false

/-- No character of the run begins an identifier, by the blocks. -/
def innerByBlocks (r : Char × Char) : Bool :=
  (blockOf? r.1).any fun b => !b.first && r.2.toNat.ble b.high

section

variable {b : Block} {c : Char} {as bs cs : List Char}

theorem holds_of_blockOf? (h : blockOf? c = some b) : b.holds c.toNat = true := by
  have hfound := List.find?_some h
  exact hfound

theorem standing_of_blockOf? (h : blockOf? c = some b) :
    isIdentifierStart c = b.first ∧ isIdentifierPart c = b.inner :=
  standing_of_mem_blocks (List.mem_of_find?_eq_some h) (holds_of_blockOf? h)

theorem isIdentifierPart_of_blockOf? (h : (blockOf? c).any Block.inner = true) :
    isIdentifierPart c = true := by
  obtain ⟨b, hb, hinner⟩ := (Option.any_eq_true _ _).1 h
  exact (standing_of_blockOf? hb).2.trans hinner

theorem isIdentifier_cons_iff :
    isIdentifier (c :: cs) = true ↔
      isIdentifierStart c = true ∧ ∀ d ∈ cs, isIdentifierPart d = true := by
  show (isIdentifierStart c && cs.all isIdentifierPart) = true ↔ _
  rw [Bool.and_eq_true, List.all_eq_true]

theorem keeps_of_keepsByBlocks {entry : Char × List Char} (h : keepsByBlocks entry = true) :
    Keeps entry.1 entry.2 := by
  obtain ⟨c, forms⟩ := entry
  cases forms with
  | nil => cases h
  | cons d rest =>
    obtain ⟨hinner, hfirst⟩ := Bool.and_eq_true _ _ |>.mp h
    have hall : ∀ e ∈ d :: rest, isIdentifierPart e = true := fun e he =>
      isIdentifierPart_of_blockOf? (List.all_eq_true.1 hinner e he)
    refine ⟨fun _ => hall, fun hc => isIdentifier_cons_iff.2 ⟨?_, fun e he => ?_⟩⟩
    · rcases Bool.or_eq_true _ _ |>.mp hfirst with hd | hnot
      · obtain ⟨b, hb, hd⟩ := (Option.any_eq_true _ _).1 hd
        exact (standing_of_blockOf? hb).1.trans hd
      · obtain ⟨b, hb, hnot⟩ := (Option.any_eq_true _ _).1 hnot
        rw [← (standing_of_blockOf? hb).1, hc] at hnot
        cases hnot
    · exact hall e (List.mem_cons_of_mem _ he)

theorem stands_of_standsByBlocks {x : Composite} (h : standsByBlocks x = true) : x.Stands := by
  unfold standsByBlocks at h
  split at h
  · next b m c hb hm hc =>
    obtain ⟨hfirst, hinner⟩ := Bool.and_eq_true _ _ |>.mp h
    constructor
    · rw [(standing_of_blockOf? hb).1, (standing_of_blockOf? hm).2, (standing_of_blockOf? hc).1]
      exact eq_of_beq hfirst
    · rw [(standing_of_blockOf? hb).2, (standing_of_blockOf? hm).2, (standing_of_blockOf? hc).2]
      exact eq_of_beq hinner
  · cases h

theorem not_isIdentifierStart_of_innerByBlocks {r : Char × Char} (h : innerByBlocks r = true)
    (hc : (r.1 ≤ c && c ≤ r.2) = true) : isIdentifierStart c = false := by
  obtain ⟨b, hb, hr⟩ := (Option.any_eq_true _ _).1 h
  obtain ⟨hfirst, hhigh⟩ := Bool.and_eq_true _ _ |>.mp hr
  obtain ⟨hlow, -⟩ := Block.holds_iff.1 (holds_of_blockOf? hb)
  simp only [Bool.and_eq_true, decide_eq_true_eq, Char.le_def, UInt32.le_iff_toNat_le] at hc
  have hhigh : r.2.toNat ≤ b.high := Nat.ble_eq.mp hhigh
  have hholds : b.holds c.toNat = true :=
    Block.holds_iff.2 ⟨Nat.le_trans hlow hc.1, Nat.le_trans hc.2 hhigh⟩
  rw [(standing_of_mem_blocks (List.mem_of_find?_eq_some hb) hholds).1]
  simpa using hfirst

/-! ### Whole tables -/

/-- The entries behind a text stay behind those that are read from it. -/
theorem foldr_split (cs : List Char) (entries : List (Char × List Char)) :
    cs.foldr entriesOf.split ([], entries) =
      (cs.foldr entriesOf.split ([], [])).map id (· ++ entries) := by
  induction cs with
  | nil => rfl
  | cons c cs ih =>
    rw [List.foldr_cons, ih, List.foldr_cons]
    generalize cs.foldr entriesOf.split ([], []) = behind
    obtain ⟨pending, more⟩ := behind
    show (if c = ' ' then _ else _) = Prod.map id _ (if c = ' ' then _ else _)
    split
    · cases pending <;> rfl
    · rfl

/-- A blank ends an entry, so what stands before one is read by itself. -/
theorem entriesOf_append_blank (as bs : List Char) :
    entriesOf (as ++ ' ' :: bs) = entriesOf as ++ entriesOf bs := by
  have hfold : (as ++ ' ' :: bs).foldr entriesOf.split ([], []) =
      as.foldr entriesOf.split ([], entriesOf bs) := by
    rw [List.foldr_append]
    rfl
  unfold entriesOf at hfold ⊢
  rw [hfold, foldr_split]
  generalize as.foldr entriesOf.split ([], []) = behind
  obtain ⟨pending, more⟩ := behind
  cases pending <;> rfl

theorem entriesOf_append {as : List Char} (h : as.getLast? = some ' ') (bs : List Char) :
    entriesOf (as ++ bs) = entriesOf as ++ entriesOf bs := by
  obtain ⟨front, rfl⟩ := List.getLast?_eq_some_iff.1 h
  have hfront : entriesOf (front ++ [' ']) = entriesOf front :=
    (entriesOf_append_blank front []).trans (List.append_nil _)
  rw [hfront, ← entriesOf_append_blank, List.append_assoc]
  rfl

/-- An entry in the first string of a table. -/
theorem find?_entriesOf {first : String} {cs forms : List Char} {c : Char}
    (hfirst : first = .ofList cs) (hlast : cs.getLast? = some ' ')
    (h : (entriesOf cs).find? (fun entry => entry.1 == c) = some (c, forms))
    (rest : List String) :
    (entriesOf ((first :: rest).flatMap String.toList)).find? (fun entry => entry.1 == c) =
      some (c, forms) := by
  rw [List.flatMap_cons, hfirst, String.toList_ofList, entriesOf_append hlast,
    List.find?_append, h]
  rfl

theorem compositesOf_append : (as bs : List Char) → as.length % 3 = 0 →
    compositesOf (as ++ bs) = compositesOf as ++ compositesOf bs
  | [], _, _ => rfl
  | [_], _, h => absurd h Nat.one_ne_zero
  | [_, _], _, h => absurd h (Nat.succ_ne_zero 1)
  | a :: b :: c :: as, bs, h => by
    have h' : as.length % 3 = 0 := by
      simp only [List.length_cons] at h
      omega
    show ⟨a, b, c⟩ :: compositesOf (as ++ bs) = _
    rw [compositesOf_append as bs h']
    rfl

/-- The entries of a string keep the places of their characters, and none is cut off. -/
def keepsEntries (cs : List Char) : Bool :=
  cs.getLast? == some ' ' && (entriesOf cs).all keepsByBlocks

/-- The composites of a string stand where their letters do, and none is cut off. -/
def standsComposites (cs : List Char) : Bool :=
  cs.length % 3 == 0 && (compositesOf cs).all standsByBlocks

/-- The runs of a string hold no character that begins an identifier, and none is cut off. -/
def innerRuns (cs : List Char) : Bool := cs.length % 2 == 0 && (runsOf cs).all innerByBlocks

-- a table has a hundred characters; each is decided as a list of its own
set_option maxRecDepth 10000 in
theorem keepsEntries_substitutes : ∀ s ∈ substitutes, keepsEntries s.toList = true := by
  unfold substitutes
  repeat refine List.forall_mem_cons.2 ⟨check_toList keepsEntries rfl (by decide +kernel), ?_⟩
  exact fun _ h => nomatch h

set_option maxRecDepth 10000 in
theorem standsComposites_composites : ∀ s ∈ composites, standsComposites s.toList = true := by
  unfold composites
  repeat refine List.forall_mem_cons.2 ⟨check_toList standsComposites rfl (by decide +kernel), ?_⟩
  exact fun _ h => nomatch h

set_option maxRecDepth 10000 in
theorem innerRuns_markClasses :
    ∀ entry ∈ markClasses, ∀ s ∈ entry.2, innerRuns s.toList = true := by
  unfold markClasses
  repeat' first
    | exact List.forall_mem_nil _
    | refine List.forall_mem_cons.2 ⟨check_toList innerRuns rfl (by decide +kernel), ?_⟩
    | refine List.forall_mem_cons.2 ⟨?_, ?_⟩

theorem keeps_of_mem_substituteTable {entry : Char × List Char} (h : entry ∈ substituteTable) :
    Keeps entry.1 entry.2 := by
  refine keeps_of_keepsByBlocks (forall_mem_of_tables (P := fun e => keepsByBlocks e = true)
    (W := fun cs => cs.getLast? = some ' ') rfl
    (fun _ bs hwhole => entriesOf_append hwhole bs) (fun s hs => ?_) entry h)
  obtain ⟨hwhole, hall⟩ := Bool.and_eq_true _ _ |>.mp (keepsEntries_substitutes s hs)
  exact ⟨eq_of_beq hwhole, List.all_eq_true.1 hall⟩

theorem stands_of_mem_compositeTable {x : Composite} (h : x ∈ compositeTable) : x.Stands := by
  refine stands_of_standsByBlocks (forall_mem_of_tables (P := fun x => standsByBlocks x = true)
    (W := fun cs => cs.length % 3 = 0) rfl
    (fun as bs hwhole => compositesOf_append as bs hwhole) (fun s hs => ?_) x h)
  obtain ⟨hwhole, hall⟩ := Bool.and_eq_true _ _ |>.mp (standsComposites_composites s hs)
  exact ⟨eq_of_beq hwhole, List.all_eq_true.1 hall⟩

/-- **A character that begins an identifier is no combining mark.** -/
theorem markClass_of_isIdentifierStart (h : isIdentifierStart c = true) : markClass c = 0 := by
  unfold markClass
  split
  · next k runs hfound =>
    obtain ⟨entry, hentry, heq⟩ := List.mem_map.1 (List.mem_of_find?_eq_some hfound)
    obtain ⟨-, rfl⟩ := Prod.mk.inj heq
    have hin : inRuns (runsOf (entry.2.flatMap String.toList)) c = true := by
      have hfound := List.find?_some hfound
      exact hfound
    obtain ⟨r, hr, hc⟩ := List.any_eq_true.1 hin
    have hinner : innerByBlocks r = true := by
      refine forall_mem_of_tables (P := fun r => innerByBlocks r = true)
        (W := fun cs => cs.length % 2 = 0) rfl
        (fun as bs hwhole => runsOf_append as bs hwhole) (fun s hs => ?_) r hr
      obtain ⟨hwhole, hall⟩ :=
        Bool.and_eq_true _ _ |>.mp (innerRuns_markClasses entry hentry s hs)
      exact ⟨eq_of_beq hwhole, List.all_eq_true.1 hall⟩
    rw [not_isIdentifierStart_of_innerByBlocks hinner hc] at h
    cases h
  · rfl

/-! ## 5. Taking apart -/

theorem keeps_self (c : Char) : Keeps c [c] where
  inner hc _ hd := List.mem_singleton.1 hd ▸ hc
  first hc := isIdentifier_cons_iff.2 ⟨hc, fun _ h => absurd h List.not_mem_nil⟩

/-- A code point of a block is a character that stands in the places of the block. -/
theorem standing_of_ofNat {n : Nat} (hb : b ∈ blocks) (hn : b.low ≤ n ∧ n ≤ b.high)
    (hvalid : n.isValidChar) :
    isIdentifierStart (.ofNat n) = b.first ∧ isIdentifierPart (.ofNat n) = b.inner := by
  refine standing_of_mem_blocks hb (Block.holds_iff.2 ?_)
  have htoNat : (Char.ofNat n).toNat = n := by
    unfold Char.ofNat
    rw [dif_pos hvalid]
    rfl
  rwa [htoNat]

/-- The parts of Hangul syllables begin identifiers. -/
theorem standing_hangulPart {n : Nat} (hlow : 0x1100 ≤ n) (hhigh : n ≤ 0x1248) :
    isIdentifierStart (.ofNat n) = true ∧ isIdentifierPart (.ofNat n) = true :=
  standing_of_ofNat (b := ⟨0x10fc, 0x1248, true, true⟩) (by decide +kernel) (by dsimp only; omega)
    (by unfold Nat.isValidChar; omega)

/-- Hangul syllables begin identifiers. -/
theorem standing_hangulSyllable {n : Nat} (hlow : 0xac00 ≤ n) (hhigh : n ≤ 0xd7a3) :
    isIdentifierStart (.ofNat n) = true ∧ isIdentifierPart (.ofNat n) = true :=
  standing_of_ofNat (b := ⟨0xac00, 0xd7a3, true, true⟩) (by decide +kernel) ⟨hlow, hhigh⟩
    (by unfold Nat.isValidChar; omega)

theorem keeps_hangulParts {parts : List Char} (h : hangulParts c = some parts) :
    Keeps c parts := by
  have hall : ∃ d rest, parts = d :: rest ∧
      ∀ e ∈ d :: rest, isIdentifierStart e = true ∧ isIdentifierPart e = true := by
    unfold hangulParts at h
    dsimp only at h
    split at h
    · next hrange =>
      have hlead := standing_hangulPart (n := 0x1100 + (c.toNat - 0xac00) / 588)
        (by omega) (by omega)
      have hvowel := standing_hangulPart (n := 0x1161 + (c.toNat - 0xac00) % 588 / 28)
        (by omega) (by omega)
      have htrail := standing_hangulPart (n := 0x11a7 + (c.toNat - 0xac00) % 28)
        (by omega) (by omega)
      split at h
      · exact ⟨_, _, (Option.some.inj h).symm, by simpa using ⟨hlead, hvowel⟩⟩
      · exact ⟨_, _, (Option.some.inj h).symm, by simpa using ⟨hlead, hvowel, htrail⟩⟩
    · cases h
  obtain ⟨d, rest, rfl, hall⟩ := hall
  refine ⟨fun _ e he => (hall e he).2, fun _ => isIdentifier_cons_iff.2 ?_⟩
  exact ⟨(hall d List.mem_cons_self).1, fun e he => (hall e (List.mem_cons_of_mem _ he)).2⟩

/-- An identifier with more characters that go on with it. -/
theorem isIdentifier_append (h : isIdentifier as = true)
    (hbs : ∀ d ∈ bs, isIdentifierPart d = true) : isIdentifier (as ++ bs) = true := by
  cases as with
  | nil => cases h
  | cons c as =>
    obtain ⟨hc, has⟩ := isIdentifier_cons_iff.1 h
    exact isIdentifier_cons_iff.2 ⟨hc, List.forall_mem_append.2 ⟨has, hbs⟩⟩

theorem keeps_substitute? {forms : List Char} (h : substitute? c = some forms) : Keeps c forms := by
  obtain ⟨entry, hfound, rfl⟩ := Option.map_eq_some_iff.1 h
  have hsame : entry.1 = c := by simpa using List.find?_some hfound
  exact hsame ▸ keeps_of_mem_substituteTable (List.mem_of_find?_eq_some hfound)

/-- **A character taken apart keeps its places.** -/
theorem keeps_takeApart (depth : Nat) (c : Char) : Keeps c (takeApart depth c) := by
  induction depth generalizing c with
  | zero => exact keeps_self c
  | succ depth ih =>
    rw [takeApart]
    split
    · exact keeps_self c
    cases hparts : hangulParts c with
    | some parts => exact keeps_hangulParts hparts
    | none =>
    cases hforms : substitute? c with
    | some forms => exact keeps_substitute? hforms
    | none =>
    cases hcomposite : compositeOf? c with
    | none => exact keeps_self c
    | some x =>
      unfold compositeOf? at hcomposite
      have hx := stands_of_mem_compositeTable (List.mem_of_find?_eq_some hcomposite)
      obtain rfl : x.composed = c := by simpa using List.find?_some hcomposite
      constructor
      · rw [hx.inner, Bool.and_eq_true]
        intro ⟨hbase, hmark⟩
        exact List.forall_mem_append.2 ⟨(ih x.base).inner hbase, (ih x.mark).inner hmark⟩
      · rw [hx.first, Bool.and_eq_true]
        intro ⟨hbase, hmark⟩
        exact isIdentifier_append ((ih x.base).first hbase) ((ih x.mark).inner hmark)

theorem isIdentifier_flatMap_takeApart (depth : Nat) (h : isIdentifier cs = true) :
    isIdentifier (cs.flatMap (takeApart depth)) = true := by
  cases cs with
  | nil => cases h
  | cons c cs =>
    obtain ⟨hc, hcs⟩ := isIdentifier_cons_iff.1 h
    rw [List.flatMap_cons]
    refine isIdentifier_append ((keeps_takeApart depth c).first hc) fun d hd => ?_
    obtain ⟨e, he, hd⟩ := List.mem_flatMap.1 hd
    exact (keeps_takeApart depth e).inner (hcs e he) d hd

/-! ## 6. Ordering -/

/-- No mark is placed before a letter. -/
theorem exists_placeMark {d : Char} (hd : markClass d = 0) (c : Char) (cs : List Char) :
    ∃ front, placeMark c (cs ++ [d]) = front ++ [d] ∧ ∀ e ∈ front, e = c ∨ e ∈ cs := by
  induction cs with
  | nil =>
    refine ⟨[c], ?_, fun e he => .inl (List.mem_singleton.1 he)⟩
    show (if _ then _ else _) = _
    rw [if_neg (by rw [hd]; exact fun h => Nat.not_lt_zero _ h.2)]
    rfl
  | cons e cs ih =>
    obtain ⟨front, hfront, hmem⟩ := ih
    rw [List.cons_append]
    unfold placeMark
    split
    · refine ⟨e :: front, by rw [hfront]; rfl, fun x hx => ?_⟩
      rcases List.mem_cons.1 hx with rfl | hx
      · exact .inr List.mem_cons_self
      · exact (hmem x hx).imp_right (List.mem_cons_of_mem _)
    · exact ⟨c :: e :: cs, rfl, fun x hx => List.mem_cons.1 hx⟩

/-- **Ordered marks still make an identifier**: its first character stays where it is. -/
theorem isIdentifier_orderMarks (h : isIdentifier cs = true) :
    isIdentifier (orderMarks cs) = true := by
  cases cs with
  | nil => cases h
  | cons d cs =>
    obtain ⟨hd, hcs⟩ := isIdentifier_cons_iff.1 h
    have hclass := markClass_of_isIdentifierStart hd
    -- what is placed so far, last first, ends with the first character
    have hplaced (front : List Char) (hfront : ∀ e ∈ front, isIdentifierPart e = true) :
        ∃ front', cs.foldl (fun placed c => placeMark c placed) (front ++ [d]) = front' ++ [d] ∧
          ∀ e ∈ front', isIdentifierPart e = true := by
      induction cs generalizing front with
      | nil => exact ⟨front, rfl, hfront⟩
      | cons c cs ih =>
        obtain ⟨hc, hcs⟩ := List.forall_mem_cons.1 hcs
        obtain ⟨front', heq, hmem⟩ := exists_placeMark hclass c front
        rw [List.foldl_cons, heq]
        refine ih (isIdentifier_cons_iff.2 ⟨hd, hcs⟩) hcs front' fun e he => ?_
        rcases hmem e he with rfl | he
        · exact hc
        · exact hfront e he
    obtain ⟨front, heq, hfront⟩ := hplaced [] fun e he => absurd he List.not_mem_nil
    unfold orderMarks
    show isIdentifier (cs.foldl _ ([] ++ [d])).reverse = true
    rw [heq, List.reverse_append]
    exact isIdentifier_cons_iff.2 ⟨hd, fun e he => hfront e (List.mem_reverse.1 he)⟩

/-! ## 7. Composing -/

/-- A composed form stands where its letter did. -/
theorem standing_of_compose? {d m : Char} (h : compose? c d = some m)
    (hd : isIdentifierPart d = true) :
    (isIdentifierStart c = true → isIdentifierStart m = true) ∧
      (isIdentifierPart c = true → isIdentifierPart m = true) := by
  have hsyllable {x : Char} (hx : hangulSyllable c d = some x) :
      isIdentifierStart x = true ∧ isIdentifierPart x = true := by
    unfold hangulSyllable at hx
    dsimp only at hx
    split at hx
    · obtain rfl := Option.some.inj hx
      exact standing_hangulSyllable (by omega) (by omega)
    split at hx
    · obtain rfl := Option.some.inj hx
      exact standing_hangulSyllable (by omega) (by omega)
    · cases hx
  unfold compose? at h
  split at h
  · next x hx =>
    obtain rfl := Option.some.inj h
    exact ⟨fun _ => (hsyllable hx).1, fun _ => (hsyllable hx).2⟩
  · obtain ⟨x, hfound, rfl⟩ := Option.map_eq_some_iff.1 h
    have hx := stands_of_mem_compositeTable (List.mem_of_find?_eq_some hfound)
    have hsame : x.base = c ∧ x.mark = d := by simpa using List.find?_some hfound
    rw [hx.first, hx.inner, hsame.1, hsame.2, hd, Bool.and_true, Bool.and_true]
    exact ⟨id, id⟩

/-- An identifier with one character replaced by another that stands where it did. -/
theorem isIdentifier_replace {l m : Char} (h : isIdentifier (as ++ l :: bs) = true)
    (hm : (isIdentifierStart l = true → isIdentifierStart m = true) ∧
      (isIdentifierPart l = true → isIdentifierPart m = true)) :
    isIdentifier (as ++ m :: bs) = true := by
  cases as with
  | nil =>
    obtain ⟨hl, hbs⟩ := isIdentifier_cons_iff.1 h
    exact isIdentifier_cons_iff.2 ⟨hm.1 hl, hbs⟩
  | cons c as =>
    obtain ⟨hc, hrest⟩ := isIdentifier_cons_iff.1 h
    obtain ⟨has, hlbs⟩ := List.forall_mem_append.1 hrest
    obtain ⟨hl, hbs⟩ := List.forall_mem_cons.1 hlbs
    exact isIdentifier_cons_iff.2
      ⟨hc, List.forall_mem_append.2 ⟨has, List.forall_mem_cons.2 ⟨hm.2 hl, hbs⟩⟩⟩

/-- One more character is taken up by the letter, or else stands behind the others. -/
theorem Composing.step_cases (s : Composing) (c : Char) :
    (∃ m, compose? s.letter c = some m ∧ s.step c = { s with letter := m }) ∨
      (s.step c).finish = s.finish ++ [c] := by
  unfold step
  dsimp only
  split
  · next m hm => exact .inl ⟨m, (Option.ite_none_right_eq_some.1 hm).2, rfl⟩
  · right
    split <;> simp [finish]

theorem isIdentifier_step {s : Composing} (h : isIdentifier s.finish = true)
    (hc : isIdentifierPart c = true) : isIdentifier (s.step c).finish = true := by
  rcases s.step_cases c with ⟨m, hm, heq⟩ | heq
  · rw [heq]
    exact isIdentifier_replace h (standing_of_compose? hm hc)
  · rw [heq]
    exact isIdentifier_append h fun d hd => List.mem_singleton.1 hd ▸ hc

/-- **A composed text is still an identifier.** -/
theorem isIdentifier_composeAll (h : isIdentifier cs = true) :
    isIdentifier (composeAll cs) = true := by
  cases cs with
  | nil => cases h
  | cons c cs =>
    obtain ⟨hc, hcs⟩ := isIdentifier_cons_iff.1 h
    have hfold (s : Composing) (hs : isIdentifier s.finish = true) :
        isIdentifier (cs.foldl Composing.step s).finish = true := by
      clear h
      induction cs generalizing s with
      | nil => exact hs
      | cons d cs ih =>
        obtain ⟨hd, hcs⟩ := List.forall_mem_cons.1 hcs
        exact ih hcs (s.step d) (isIdentifier_step hs hd)
    exact hfold ⟨[], c, []⟩ (isIdentifier_cons_iff.2 ⟨hc, fun _ hd => absurd hd List.not_mem_nil⟩)

/-- **The one spelling of an identifier is an identifier.** -/
theorem isIdentifier_normalized (h : isIdentifier cs = true) :
    isIdentifier (normalized cs) = true := by
  unfold normalized
  split
  · exact h
  · exact isIdentifier_composeAll (isIdentifier_orderMarks (isIdentifier_flatMap_takeApart 5 h))

end

end VisualScale.Text
