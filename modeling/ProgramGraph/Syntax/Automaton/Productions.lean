import ProgramGraph.Syntax.Automaton.Packed
import ProgramGraph.Syntax.Vocabulary

/-! The productions of the grammar, as far as a reduction needs them. -/

namespace ProgramGraph.Syntax.Automaton

/-- What a part does in the construct around it. -/
inductive Role
  | name
  /-- The name that an import binds. -/
  | alias
  /-- The module that names are imported from. -/
  | source
  | parameters
  | bases
  | body
  | value
  | object
  | member
  | callee
  | arguments
  deriving DecidableEq, Repr

/-- The parts of a production that have a role, and those that have a kind of their own, by their places
    among the parts. -/
structure Labels where
  roles : List (Nat × Role)
  kinds : List (Nat × Kind)
  deriving DecidableEq, Repr

def labels : List Labels :=
  [⟨[], []⟩,
    ⟨[], [(0, .identifier)]⟩,
    ⟨[], [(1, .identifier)]⟩,
    ⟨[], [(2, .compound)]⟩,
    ⟨[], [(3, .compound)]⟩,
    ⟨[], [(0, .group)]⟩,
    ⟨[(0, .object), (2, .member)], []⟩,
    ⟨[], [(4, .compound)]⟩,
    ⟨[], [(5, .compound)]⟩,
    ⟨[], [(6, .compound)]⟩,
    ⟨[(1, .name), (3, .body)], [(3, .compound)]⟩,
    ⟨[(1, .name), (2, .parameters), (4, .body)], [(4, .compound)]⟩,
    ⟨[(1, .name), (3, .body), (4, .body)], []⟩,
    ⟨[(1, .name), (4, .body)], [(4, .compound)]⟩,
    ⟨[(1, .name), (2, .bases), (4, .body)], [(4, .compound)]⟩,
    ⟨[(2, .name), (3, .parameters), (5, .body)], [(5, .compound)]⟩,
    ⟨[(1, .name), (2, .parameters), (4, .body), (5, .body)], []⟩,
    ⟨[(1, .name), (3, .parameters), (5, .body)], [(5, .compound)]⟩,
    ⟨[(1, .name), (4, .body), (5, .body)], []⟩,
    ⟨[(1, .name), (3, .bases), (5, .body)], [(5, .compound)]⟩,
    ⟨[(1, .name), (2, .bases), (4, .body), (5, .body)], []⟩,
    ⟨[(2, .name), (3, .parameters), (5, .body), (6, .body)], []⟩,
    ⟨[(2, .name), (4, .parameters), (6, .body)], [(6, .compound)]⟩,
    ⟨[(1, .name), (2, .parameters), (6, .body)], [(6, .compound)]⟩,
    ⟨[(1, .name), (3, .parameters), (5, .body), (6, .body)], []⟩,
    ⟨[(1, .name), (3, .bases), (5, .body), (6, .body)], []⟩,
    ⟨[(2, .name), (3, .parameters), (7, .body)], [(7, .compound)]⟩,
    ⟨[(2, .name), (4, .parameters), (6, .body), (7, .body)], []⟩,
    ⟨[(1, .name), (2, .parameters), (6, .body), (7, .body)], []⟩,
    ⟨[(1, .name), (3, .parameters), (7, .body)], [(7, .compound)]⟩,
    ⟨[(2, .name), (3, .parameters), (7, .body), (8, .body)], []⟩,
    ⟨[(2, .name), (4, .parameters), (8, .body)], [(8, .compound)]⟩,
    ⟨[(1, .name), (3, .parameters), (7, .body), (8, .body)], []⟩,
    ⟨[(2, .name), (4, .parameters), (8, .body), (9, .body)], []⟩,
    ⟨[(0, .callee), (1, .arguments)], []⟩,
    ⟨[], [(1, .group)]⟩,
    ⟨[], [(2, .group)]⟩,
    ⟨[(1, .value)], []⟩,
    ⟨[(0, .name), (2, .value)], []⟩,
    ⟨[(2, .value)], [(0, .identifier)]⟩,
    ⟨[(2, .value)], []⟩,
    ⟨[(0, .name), (4, .value)], []⟩,
    ⟨[(0, .name)], []⟩,
    ⟨[(1, .name)], []⟩,
    ⟨[(0, .name), (2, .alias)], []⟩,
    ⟨[], [(0, .replacement)]⟩,
    ⟨[(1, .source)], []⟩]

/-- The productions. The digits are the construct, the number of its parts, its weight plus one, and its
    labels. -/
def productionWords : Pages Nat :=
  ⟨#[
    #[0x100006b, 0x100106b, 0x10020ef, 0x100100107b, 0x10010010b1, 0x10010010bb, 0x20010020b6, 0x10020c7,
      0x10030c7, 0x10010c9, 0x10020e1, 0x10030e1, 0x10050e2, 0x10060e2, 0x10070e2, 0x10020a0, 0x10030a0,
      0x100107e, 0x100107c, 0x10010cc, 0x10020cc, 0x20010020b7, 0x1002079, 0x1003076, 0x3076, 0x100208e,
      0x1003079, 0x1004076, 0x4076, 0x100308e, 0x10030cc, 0x10040cc, 0x300100308a, 0x300100408a,
      0x100408a, 0x100508a, 0x100107b, 0x10010b1, 0x10010bb, 0x4001004082, 0x4001005082, 0x1005082,
      0x10020f9, 0x1006082, 0x50010010bb, 0x10020b2, 0x10020d8, 0x10020b6, 0x10020b3, 0x10020d6,
      0x100206d, 0x100306d, 0x60010030ca, 0x100109f, 0x100406d, 0x10040cb, 0x100209f, 0x10050cb,
      0x10020f5, 0x10060cb, 0x10020d0, 0x300100308b, 0x400100408b, 0x100408b],
    #[0x100508b, 0x700100508b, 0x100608b, 0x800100608b, 0x100708b, 0x4001004089, 0x10010f5, 0x1005089,
      0x300100508a, 0x8001006088, 0x100608a, 0x9001007088, 0x1007088, 0x4001004083, 0x1008088, 0x1005083,
      0x3001003084, 0x1004084, 0x100209d, 0x10020af, 0x10030af, 0x1001086, 0x1004085, 0x400100408d,
      0xa001004099, 0x1005085, 0x1002086, 0x700100508d, 0x4001005089, 0x100508d, 0xb001005090,
      0xc001005099, 0xd001005099, 0xe001005099, 0x4001006082, 0x1003086, 0x1006085, 0x100608d,
      0xf001006090, 0x1006089, 0x300100308c, 0x300100608a, 0x10001006090, 0x11001006090, 0x12001006099,
      0x13001006099, 0x14001006099, 0x1007082, 0x15001007090, 0x16001007090, 0x8001007088, 0x100408c,
      0x100708a, 0x17001007090, 0x18001007090, 0x19001007099, 0x9001008088, 0x1a001008090, 0x1b001008090,
      0x1c001008090, 0x1d001008090, 0x1009088, 0x1e001009090, 0x1f001009090],
    #[0x20001009090, 0x2100100a090, 0x10010ee, 0x10010ba, 0x10020e5, 0x100210b, 0x10020bf, 0x10020ec,
      0x10030be, 0x1002105, 0x10020e6, 0x10030e6, 0x10020d9, 0x220010020cd, 0x10030e0, 0x10030d8,
      0x10030d6, 0x10030d9, 0x10030d7, 0x100209c, 0x10040de, 0x10040db, 0x10040d9, 0x10040dd, 0x10040dc,
      0x100309c, 0x2300100309c, 0x10050d9, 0x100409c, 0x2300100409c, 0x100509c, 0x2300100509c, 0x10020c2,
      0x10020c0, 0x10020c1, 0x10020b7, 0x1002104, 0x10030b2, 0x10030b3, 0x10010c8, 0x10020ae, 0x10030ae,
      0x10010cf, 0x10010e1, 0x10020bc, 0x10030c3, 0x100307a, 0x240010030b8, 0x10030bd, 0x10040c3,
      0x10050e4, 0x100210c, 0x200108f, 0x1001079, 0x10010e9, 0x10020c9, 0x100207e, 0x10010a1, 0x10020a1,
      0x10020f4, 0x1002100, 0x10030c9, 0x10010e7, 0x2076],
    #[0x1002078, 0x100207c, 0x100207d, 0x100210d, 0x1004097, 0x10030da, 0x10010b9, 0x10010a3, 0x10010df,
      0x1002077, 0x10020df, 0x10020f3, 0x10020e3, 0x1002108, 0x1002106, 0x10020a3, 0x10020ff, 0x1002093,
      0x100307e, 0x1002094, 0x10030c5, 0x250010030e8, 0x1002109, 0x100407e, 0x10020f6, 0x260010030b4,
      0x250010040e8, 0x100309a, 0x270010030d5, 0x280010030d5, 0x10020fe, 0x250010050e8, 0x10040e2,
      0x10010a2, 0x100409a, 0x250010060e8, 0x10020a5, 0x10020fa, 0x100509a, 0x10050cc, 0x100210a,
      0x10030aa, 0x1002101, 0x10010020d1, 0x10020d1, 0x10030d4, 0x10030d3, 0x10030d2, 0x10030ce,
      0x290010050b5, 0x2a001001073, 0x2a001002073, 0x10010eb, 0x2a001003073, 0x2004098, 0x10020eb,
      0x100210e, 0x10020fd, 0x10020a7, 0x10020ab, 0x10020a6, 0x10020a8, 0x10030c4, 0x10030a7],
    #[0x10030a6, 0x10030a8, 0x10030ad, 0x10030ac, 0x10040c4, 0x10040a7, 0x10040a6, 0x10040ad, 0x10040a8,
      0x10040ac, 0x10050a7, 0x10050a6, 0x10050a8, 0x10050ac, 0x10060ac, 0x100106f, 0x1002076, 0x1002095,
      0x1002096, 0x10020f1, 0x1003078, 0x1003095, 0x1003096, 0x100309e, 0x2b0010020f2, 0x10020f2,
      0x10020fc, 0x1005097, 0x10020f7, 0x10020f8, 0x10030a4, 0x1002102, 0x10010b0, 0x1001070, 0x10010af,
      0x100108e, 0x1002097, 0x10010ae, 0x10020f0, 0x2c001003074, 0x10020fb, 0x1002107, 0x1002103,
      0x2d00100110e, 0x10030a9, 0x100107f, 0x1001080, 0x1001081, 0x100206e, 0x10010ed, 0x10030c6,
      0x1004071, 0x1001075, 0x2e001004072, 0x100309b, 0x2300100309b, 0x1002091, 0x10010f7, 0x1003091,
      0x10050c5, 0x230010020fe, 0x1006071, 0x2e001006072, 0x4001004087],
    #[0x7001005087, 0x1005087, 0x1006087, 0x8001006087, 0x1007087, 0x9001007087, 0x1008087, 0x1001092,
      0x1002070, 0x100408e, 0x100508e]]⟩

end ProgramGraph.Syntax.Automaton
