import ProgramGraph.Syntax.Automaton.Packed

/-! What the automaton may do on a token, other than to take it. -/

namespace ProgramGraph.Syntax.Automaton

/-- Sets of tokens, as masks of their codes. -/
def tokenSets : Pages Nat :=
  ⟨#[
    #[0x7f3fbffffffffffffffffffffff, 0x8021000000000000, 0x3b08000000000000000000000, 0x800200,
      0x3ffe000000080000000000, 0x10000000ff7f84800040402414, 0x21000000000000, 0x3ffe000000080000800000,
      0x10000000ff7f84804040400414, 0x10000000ff7f84804040402414, 0x10000000ff7fc4804040402414,
      0x7e04804000002010, 0x10003ffeff01c0080040c00604, 0x10000000ff7fc4884040c02634,
      0x10000000ff01c0080040c00624, 0x80000ff7fd4884040c02410, 0x80000ff01d0080060c00600,
      0x80000ff7fd4884040c02610, 0xff7fc4804060402710, 0xff7fc4884042c02610, 0xff7fc4c04040402610,
      0x20800000, 0xff7fd4804060c02610, 0xff7fd4804040402610, 0xff7fc4884040c02710, 0xff01c0080060c00700,
      0xff7fc4c04060c02610, 0xff7fc4804040402710, 0x300, 0xff7fc4804060402410, 0xff01c0080042c00600,
      0x400000000200, 0x10003ffe000000080000800204, 0xff01c0400060c00600, 0xff7fc4c04040c02610,
      0xff7fc4804040c02610, 0x3ffe000000080000800200, 0x10003ffe000000080000800004,
      0x80000000010080000800200, 0x30400100, 0x400030400000, 0x10000030400000,
      0x10000000000000000000000004, 0x10000000000000000000000024, 0x800300, 0x40000200,
      0x10000000ff7fe5a04040402c94, 0x83f0c001008069b799b47f58ab, 0xc3f0c001008069b799b47f58aa,
      0x10000000ff7fe5804040402c94, 0x83f0c001008069b79db67f58ab, 0xc3f0c001008069b79db67f58aa,
      0x7e25a04000002890, 0x83f0c001008069b79fb77f58ab, 0x10003ffeff7fe5a84040c02e94,
      0x83f0c001008069b799b67f58ab, 0xc3f0c001008069b79fb77f58aa, 0xc3f0c001008069b799b67f58aa,
      0x4000000800010, 0x7e21a04000002880, 0x10003ffeff01c0080040400604, 0x83f0c001008069b79fb67f58ab,
      0xc3f0c001008069b79fb67f58aa, 0x80000000010080000800000],
    #[0x83f0c001008069b799b77f58ab, 0xc3f0c001008069b799b77f58aa, 0x83f0c001008069b79db47f58ab,
      0xc3f0c001008069b79db47f58aa, 0x10000000000180080000c00624, 0x180400030c00600, 0x190000030c00600,
      0x80000000190080000c00600, 0x10000000000180000000c00604, 0x10000000ff7fe5a84040c02eb4,
      0x180000030400700, 0x180080002c00600, 0x180080000c00700, 0x10000000ff7fe5880040c02e24,
      0x10000000ff71c4080040c02624, 0x10000000ff71e5080040c02624, 0x10000000ff01c4080040c00624,
      0x10000000ff11c4080040c00624, 0x10000000ff31c4080040c00624, 0xff7fe5e04070c02e90,
      0xff7ff5a04070c02e90, 0x80000ff7ff5a84040c02e90, 0x180400000c00600, 0x90000000ff7fe5a84040c02eb4,
      0xff7fe5a04070402f90, 0xff7fe5a84042c02e90, 0xff7fe5c00070c02e00, 0xff71c4400070c02600,
      0xff01c0400070c00600, 0xff71e5400070c02600, 0xff01c4400070c00600, 0xff11c4400070c00600,
      0xff31c4400070c00600, 0xff7fe5c04070c02e90, 0xff7ff5800070c02e00, 0xff71d4000070c02600,
      0xff01d0000070c00600, 0xff71f5000070c02600, 0xff01d4000070c00600, 0xff11d4000070c00600,
      0xff31d4000070c00600, 0x80000ff7ff5880040c02e00, 0x80000ff7ff5a84070c02e90,
      0x80000ff71d4080040c02600, 0x80000ff01d0080040c00600, 0x80000ff71f5080040c02600,
      0x80000ff01d4080040c00600, 0x80000ff11d4080040c00600, 0x80000ff31d4080040c00600, 0x180000000400700,
      0xff7fe5a84040c02f90, 0x180400000400600, 0x190000000400600, 0x4400000800210, 0xff7fe1a04040402c80,
      0x30000000, 0x10000000ff7fe5884040c02c94, 0xff7fe5800070402f00, 0xff7fe5e04040402e90, 0x30800000,
      0xff71c4000070402700, 0xff01c0000070400700, 0xff71e5000070402700, 0xff01c4000070400700],
    #[0xff11c4000070400700, 0xff31c4000070400700, 0x80000ff7ff5a84040c02c90, 0xff7fe5880042c02e00,
      0xff7ff5a04040402e90, 0xff71c4080042c02600, 0xff71e5080042c02600, 0xff01c4080042c00600,
      0xff11c4080042c00600, 0xff31c4080042c00600, 0xff7fe5884040c02f90, 0x80000000ff7fe5e04070c02e90,
      0x80000000ff7ff5a04070c02e90, 0x80080000ff7ff5a84040c02e90, 0xff7fe5880040c02f00,
      0xff71c4080040c02700, 0xff01c0080040c00700, 0xff71e5080040c02700, 0xff01c4080040c00700,
      0xff11c4080040c00700, 0xff31c4080040c00700, 0xff7fe5e04040c02e90, 0xff7fe5a04070402c90,
      0xff7fe5884040c02e90, 0xff7fe5a04040402f90, 0x80000000ff7fe5a04070402f90, 0xff7fe5a04070c02f90,
      0x80000000ff7fe5a84042c02e90, 0xff7fe5c04040c02e90, 0x80000000ff7fe5a84040c02f90,
      0xff7fe5c00040c02e00, 0xff71c4400040c02600, 0xff01c0400040c00600, 0xff71e5400040c02600,
      0xff01c4400040c00600, 0xff11c4400040c00600, 0xff31c4400040c00600, 0x10000000000004080000800014,
      0xff01c0000040400400, 0x4080000800310, 0x80000000ff7fe5e04040c02e90, 0x4080000800210,
      0xff7fe5a04040c02e90, 0x3ffe007e25a84000802a90, 0x10000000000184080000c00634, 0xfe0000000040000000,
      0x184400030c00610, 0x184080002c00610, 0x184080000c00710, 0x184400000c00610,
      0x83f08000008029260014001882, 0x3ffe000000080040800200, 0x10000000000004080000800234,
      0x10000000000004080000c00234, 0x10000000000004080000c00634, 0x10000000000104080000c00634,
      0x300030000000000000000000000, 0x4400030800210, 0x4400030c00210, 0x4400030c00610, 0x104400030c00610,
      0x4080002800210, 0x4080002c00210, 0x4080002c00610],
    #[0x104080002c00610, 0x4080000c00310, 0x4080000c00710, 0x104080000c00710, 0x4000000c00680,
      0x4000000c00688, 0x10000030800200, 0x10000030c00200, 0x10000030c00600, 0x110000030c00600,
      0x80000000010080000c00200, 0x80000000010080000c00600, 0x80000000110080000c00600, 0x4400000c00210,
      0x4400000c00610, 0x104400000c00610, 0x400000000000008000000000000, 0x10000000000000000000000224,
      0x10000030000200, 0x30400300, 0x4000000c00600, 0x30000300, 0x30400700, 0x100000030400700,
      0x4000000c00698, 0x400030400200, 0x4000000000780, 0x10000030400200, 0x4400000000680,
      0x14000000000680, 0x10000000000000000000000204, 0x4000000000700, 0x4400000000600, 0x14000000000600,
      0x10000000000000000000000604, 0x101010000000, 0x10000000000200, 0x700030000000008000000000000,
      0x4080000800290, 0xc00600, 0x10000000000000080000000004, 0x4000000000790, 0x4400000000690,
      0x80000000300, 0x14000000000690, 0x10000000000000000000000614, 0x80000000200, 0x4000000800000,
      0x700, 0x400000000600, 0x10000000000600, 0x14000000800600, 0xa, 0x901010000000, 0xc00200, 0xc00000,
      0x80000800200, 0x40000000018000000000000, 0x10000000000000000040000004, 0x2000800000,
      0x40000000000000000008000000]]⟩

/-- Lists of moves. Each move takes two digits: its form, then the state or production that it goes to. -/
def choiceWords : Pages Nat :=
  ⟨#[
    #[0x5, 0x3, 0x1003, 0x65e002002003, 0x2003, 0x80e002002003, 0x6fd002002003, 0xb6002002003,
      0x345002002003, 0x50002002003, 0x1d1002002003, 0x16c002002003, 0x1bc002002003, 0x155002002003,
      0x971002002003, 0x972002002003, 0x973002002003, 0x1d2002002003, 0x52002002003, 0x1bd002002003,
      0x2ba002002003, 0x1d3002002003, 0x9d6002002003, 0x188002002003, 0x9d7002002003, 0x9d8002002003,
      0x9d9002002003, 0x1be002002003, 0x47002002003, 0x9da002002003, 0xb7002002003, 0x1d4002002003,
      0x346002002003, 0xb8002002003, 0x1d5002002003, 0x630002002003, 0x156002002003, 0x3f5002002003,
      0x250002002003, 0x91002002003, 0x24c002002003, 0x53002002003, 0x1d0002002003, 0x332002002003,
      0x24d002002003, 0xa82002002003, 0x1ba002002003, 0xa92002002003, 0xa91002002003, 0x3003,
      0x5003004003, 0x4003, 0x5003, 0x109001005003, 0x347001005003, 0x9e4001005003, 0x392001005003,
      0x237001005003, 0x10a001005003, 0x110001005003, 0x391001005003, 0x111001005003, 0x346001005003,
      0x1d5001005003],
    #[0x38d001005003, 0x6003005003, 0x6003, 0x7003, 0x8003, 0x9003, 0xa003, 0xb003, 0xc003, 0xd003,
      0xe003, 0xf003, 0x10003, 0x11003, 0x12003, 0x13003, 0x14003, 0x15003, 0x16003, 0x17003, 0x18003,
      0x19003, 0x1a003, 0x1b003, 0x1c003, 0x1d003, 0x1e003, 0x1f003, 0x20003, 0x21003, 0x22003, 0x23003,
      0x24003, 0x26003025003, 0x25003, 0x26003, 0x27003, 0x28003, 0x29003, 0x2a003, 0x1c300202a003,
      0x2b003, 0x1cc00202a003, 0x2c003025003, 0x2c003, 0x2e00302d003, 0x2d003, 0x2e003, 0x2f003026003,
      0x2f003, 0x31003030003, 0x30003, 0x31003, 0x32003, 0x33003, 0x34003, 0x35003, 0x36003, 0x37003,
      0x38003, 0x39003, 0x3a003, 0x1ef00203a003, 0x3b003],
    #[0x24e00203a003, 0x3c003, 0x3d003, 0x3e003, 0x3f003, 0x40003, 0x41003, 0x42003, 0x43003, 0x44003,
      0x45003, 0x46003, 0x47003, 0x48003, 0x49003, 0x4a003, 0x4b003, 0x4c003, 0x4d003, 0x4e003, 0x4f003,
      0x50003, 0x51003, 0x52003, 0x53003, 0x54003, 0x55003, 0x56003, 0x57003, 0x58003, 0x59003, 0x5a003,
      0x5b003, 0x5c003, 0x5d003, 0x5e003, 0x5f003, 0x60003, 0x61003, 0x62003, 0x63003, 0x64003, 0x65003,
      0x66003, 0x67003, 0x68003, 0x69003, 0x6a003, 0x6b003, 0x6c003, 0x6d003, 0x6e003, 0x6f003, 0x70003,
      0x71003, 0x72003, 0x73003, 0x74003, 0x75003, 0x76003, 0x77003, 0x78003, 0x79003, 0x7a003],
    #[0x7b003, 0x7c003, 0x7d003, 0x7e003, 0x7f003, 0x80003, 0x81003, 0x82003, 0x83003, 0x84003, 0x85003,
      0x65e002085003, 0x86003, 0x87003, 0x88003, 0x89003, 0x67b002085003, 0x67f002085003, 0x683002085003,
      0x8a003, 0x8b003, 0x66f002085003, 0x673002085003, 0x687002085003, 0x8c003, 0x8d003, 0x8e003,
      0x8f003, 0x90003, 0x91003, 0x92003, 0x93003, 0x94003, 0x95003, 0x96003, 0x97003, 0x98003, 0x99003,
      0x9a003, 0x9b003, 0x9c003, 0x9d003, 0x9e003, 0x9f003, 0x68b002085003, 0xa0003, 0x34b002089003,
      0x9ec002089003, 0x33c002089003, 0x365002089003, 0x33f002089003, 0x35c002089003, 0x33e002089003,
      0x37f002089003, 0x342002089003, 0x36e002089003, 0x340002089003, 0x377002089003, 0x341002089003,
      0x387002089003, 0x343002089003, 0xa1003, 0xa2003, 0x354002089003],
    #[0x33d002089003, 0xa3003, 0xa4003, 0x3390020a4003, 0xa5003, 0xa6003, 0xa7003, 0x3340020a4003,
      0xa8003, 0xa9003, 0xaa003, 0xab003, 0xac003, 0xad003, 0xae003, 0x1dd0010ae003, 0xaf003, 0xb0003,
      0xb1003, 0xb2003, 0x6d00020b3003, 0xb3003, 0xd90020b3003, 0x13f0010b4003, 0xb5003, 0x20d0010ae003,
      0xb6003, 0x2050010ae003, 0xb7003, 0x2220010ae003, 0xb8003, 0xb9003, 0xba003, 0xbb003, 0xbc003,
      0xa1c0020bc003, 0xbd003, 0x2140010ae003, 0x21b0010ae003, 0x2290010ae003, 0xbe003, 0xbf003, 0xc0003,
      0xc1003, 0xc2003, 0x6d60020c3003, 0xc3003, 0xc4003, 0xc5003, 0xc6003, 0xc7003, 0x1f90010ae003,
      0xc8003, 0xc9003, 0xca003, 0xcb003, 0xcc003, 0xcd003, 0x1e80020cd003, 0x9f10020cd003,
      0x2be0020cd003, 0xce003, 0xcf003, 0x2330020cd003],
    #[0xa960020cd003, 0x32e0020cd003, 0xa330020bc003, 0x2390020cd003, 0xa980020cd003, 0x3300020cd003,
      0xa450020bc003, 0xa560020bc003, 0xb4003, 0xd0003, 0x1d40020d0003, 0xd1003, 0xd2003, 0xd3003,
      0xd4003, 0xd5003, 0x9ee0020bc003, 0xd6003, 0xd7003, 0xd8003, 0xd9003, 0xda003, 0xdb003, 0xdc003,
      0xdd003, 0xde003, 0xdf003, 0xe0003, 0xe1003, 0xe2003, 0xe3003, 0xe4003, 0xe5003, 0xe6003, 0xe7003,
      0xe8003, 0x19f0020e8003, 0xe9003, 0xea003, 0x5e50020ea003, 0xeb003, 0xec003, 0x1fc0020bb003,
      0xed003, 0xee003, 0xef003, 0xf0003, 0xf1003, 0x1ab0020e8003, 0x1b00020e8003, 0x3380020a4003,
      0xf2003, 0xf3003, 0x1e10020bb003, 0xf4003, 0xf5003, 0xf6003, 0xf7003, 0xe20020f8003, 0xf8003,
      0x7b70020f8003, 0xf9003, 0xfa003, 0xfb003],
    #[0xfc003, 0xfd003, 0xfe003, 0xff003, 0x100003, 0x101003, 0x102003, 0x103003, 0x104003, 0x105003,
      0x106003, 0x107003, 0x108003, 0x109003, 0x10a003, 0x10b003, 0x10c003, 0x10d003, 0x10e003,
      0x5e70020ea003, 0x5e90020ea003, 0x5eb0020ea003, 0x10f003, 0x110003, 0x111003, 0x112003, 0x113003,
      0x818002113003, 0x114003, 0x115003, 0x116003, 0x117003, 0x118003, 0x119003, 0x8b7002119003,
      0x1ee0020cb003, 0x11a003, 0x9f500211a003, 0x11b003, 0x11c003, 0x5cc00211c003, 0x11d003, 0x11e003,
      0x5ce00211d003, 0x11f003, 0x120003, 0x121003, 0x122003, 0x123003, 0x124003, 0x125003, 0x126003,
      0x90002126003, 0x127003, 0x1590020d6003, 0x1f00020d8003, 0x1c5002128003, 0x128003, 0x172002129003,
      0x129003, 0x64a00212a003, 0x12a003, 0x12b003, 0x1410020de003],
    #[0x19c0020ce003, 0xf10020f9003, 0x1f20020e5003, 0x12c003, 0x5e100211f003, 0x3360020a4003,
      0x8e4002119003, 0x15e0020d6003, 0x1ca002128003, 0x64c00212a003, 0x5cf00211d003, 0x3370020a4003,
      0x2360020bb003, 0x1610020d6003, 0x5d000211d003, 0x23b0020bb003, 0x2080020bb003, 0x3350020a4003,
      0x12d003, 0x12e003, 0x12f003, 0x130003, 0x131003, 0x132003, 0x133003, 0x134003, 0x135003, 0x136003,
      0x137003, 0x138003, 0x139003, 0x13a003, 0x13b003, 0x13c003, 0x13d003, 0x13e003, 0x13f003, 0x140003,
      0x141003, 0x142003, 0x143003, 0x144003, 0x145003, 0x146003, 0x4, 0x147003, 0x148003, 0x149003,
      0x14a003]]⟩

set_option maxRecDepth 20000 in
/-- The rows of choices. A key below 128 is a token, one above counts the token sets from 128 on; a value
    counts the lists of moves from 1 on. -/
def choiceRowWords : Pages Nat :=
  ⟨#[
    #[0x1080000, 0x2000000, 0x0, 0x3000000,
      0x1101501001400f01300e01200d01100c01000b00e00a00c00900b008007007005006003027001005000000,
      0x1f02d01e02c01d02a01c02901b02801a02701902401802301702001601f01501d01401c01301a012016005,
      0x2608202108100406702805e02505602404802303602203302002f006,
      0x2901601101501001400f01300e01200d01100c01000b00e00a00c00900b008007007005006003027001000,
      0x2002f01f02d03102c01d02a01c02901b02801a02703002402f02302e02002d01f02c01d02b01c02a01a008,
      0x2608202108100406700506602805e025056024048023036022033009,
      0x3908603508503408403308303a03603802603200f03700b036007000,
      0x3408703908603508503a03603b02d03802603200f03700b033009036007000,
      0x3508803408703f08604003603e02d03200f03d00b03300903c007000,
      0x3508803f08603408403308304003603e02d03200f03d00b03c007000,
      0x3508903408703908603a03603b02d03200f04100b033009036007000, 0x3508a03408703200f033009000,
      0x3508a03408403308303200f000, 0x4308c04208b000, 0x3508d03200f000, 0x3508d000, 0x4308e04208b000,
      0x3508f03200f033009000, 0x4309004208b000, 0x3509103200f000, 0x3509203200f000, 0x3509303200f000,
      0x4309504209403200f000, 0x3509603200f000, 0x4209704309503200f000, 0x3509803200f000,
      0x4309904208b000, 0x3509a03200f000, 0x35091000, 0x4209b04301d03200f000, 0x3509d03309c03200f000,
      0x4309e04208b000, 0x3309f03509d03200f000, 0x35093000, 0x3509a000, 0x35096000, 0x340a003508b000,
      0x430a104208b000, 0x350a203200f000, 0x35098000, 0x3509b03200f000, 0x35092000, 0x420a303200f000,
      0x350a2000, 0x340a403508b000, 0x430a404208b000, 0x440a5000, 0x450a5000, 0x44087000, 0x45087000,
      0x460a6000, 0x47008000, 0x48008000, 0x490a7000, 0x4a0a7000, 0x4b0a7000, 0x4702e000, 0x4c0a6000,
      0x4802e000, 0x4d0a6000],
    #[0x490a8000, 0x4a0a8000, 0x4b0a8000, 0x47034000, 0x48034000, 0x490a9000, 0x4a0a9000, 0x4b0a9000,
      0x340a603508b000, 0x4e0aa000, 0x460aa000, 0x4609c000, 0x4609f000, 0x4f0aa000, 0x4c0ab000,
      0x5009f000, 0x4d0ab000, 0x5109f000, 0x520ac03508b000, 0x430ac03508b000, 0x340ad03508b000,
      0x530aa000, 0x540aa000, 0x550aa000, 0x56017000, 0x3508b052083000, 0x570aa000, 0x580aa000,
      0x590aa000, 0x5a017000, 0x5b09f000, 0x5c09f000, 0x3409c03508b000, 0x4c09c000, 0x4d09c000,
      0x3508b043083000, 0x3409f03508b000, 0x4c09f000, 0x4d09f000, 0x350ae03408703200f033009000,
      0x350ae03408403308303200f000, 0x4c017000, 0x4d017000, 0x5d0af000, 0x5e0af000, 0x5f0af000,
      0x600af000, 0x5d0b0000, 0x5e0b0000, 0x5f0b0000, 0x600b0000, 0x640b106308406208306100f000,
      0x640ae06308706100f062009000, 0x650af000, 0x660af000, 0x670af000, 0x680b2069021000, 0x6a0af000,
      0x650b0000, 0x660b0000, 0x670b0000, 0x680b306b021000, 0x6a0b0000, 0x6d0ae06308706c009000],
    #[0x640ae063087062009000, 0x700ae06f08706e009000, 0x420b404308c000, 0x710b407208c000,
      0x750ae074087073009000, 0x760b5000, 0x770b5000, 0x780b6000, 0x790b5000, 0x7a0b5000, 0x7b0b6000,
      0x7c0b5000, 0x7d0b6000, 0x7e0b707f018000, 0x800b6000, 0x760b8000, 0x770b8000, 0x790b8000,
      0x7a0b8000, 0x7c0b8000, 0x7e0b9081018000, 0x720bc0710bb0820ba000, 0x6d0ae06308406c083000,
      0x640ae063084062083000, 0x700ae06f08406e083000, 0x750ae074084073083000, 0x830bd000, 0x840bd000,
      0x850bd000, 0x860bd000, 0x870bd000, 0x880bd000, 0x890bd000, 0x8a0bd000, 0x830be000, 0x840be000,
      0x850be000, 0x860be000, 0x870be000, 0x880be000, 0x890be000, 0x8a0be000, 0x440bf000, 0x450bf000,
      0x8b0af000, 0x8c0c0000, 0x8d0af000, 0x8e0af000, 0x8f0af000, 0x900af000, 0x910af000, 0x920af000,
      0x930c0000, 0x940af000, 0x950c0000, 0x8b0b0000, 0x8c0c1000, 0x8d0b0000, 0x8e0b0000, 0x8f0b0000,
      0x900b0000, 0x910b0000, 0x920b0000, 0x930c1000],
    #[0x940b0000, 0x950c1000, 0x960c2000, 0x970c2000, 0x960c3000, 0x970c3000, 0x980af000, 0x99008000,
      0x9a008000, 0x9b0af000, 0x9c0af000, 0x9d0af000, 0x9e0af000, 0x9f0af000, 0xa00af000, 0xa10af000,
      0xa20af000, 0xa30af000, 0xa40af000, 0xa50af000, 0xa60af000, 0xa70af000, 0xa80af000, 0xa90af000,
      0xaa0af000, 0xab0af000, 0xac0af000, 0xad0af000, 0xae0af000, 0xaf0af000, 0xb00af000, 0xb10af000,
      0xb20af000, 0xb30af000, 0xb40af000, 0xb50af000, 0xb60af000, 0xb70af000, 0xb80af000, 0xb90af000,
      0xba0af000, 0xbb0af000, 0xbc0af000, 0xbd0af000, 0xbe0af000, 0xbf0af000, 0xc00af000, 0xc10af000,
      0xc20af000, 0xc30af000, 0xc40af000, 0xc50af000, 0xc60af000, 0xc70af000, 0x4401e000, 0x980b0000,
      0x9902e000, 0x4501e000, 0x9a02e000, 0x9b0b0000, 0x9c0b0000, 0x9d0b0000, 0x9e0b0000, 0x9f0b0000],
    #[0xa00b0000, 0xa10b0000, 0xa20b0000, 0xa30b0000, 0xa40b0000, 0xa50b0000, 0xa60b0000, 0xa70b0000,
      0xa80b0000, 0xa90b0000, 0xaa0b0000, 0xab0b0000, 0xac0b0000, 0xad0b0000, 0xae0b0000, 0xaf0b0000,
      0xb00b0000, 0xb10b0000, 0xb20b0000, 0xb30b0000, 0xb40b0000, 0xb50b0000, 0xb60b0000, 0xb70b0000,
      0xb80b0000, 0xb90b0000, 0xba0b0000, 0xbb0b0000, 0xbc0b0000, 0xbd0b0000, 0xbe0b0000, 0xbf0b0000,
      0xc00b0000, 0xc10b0000, 0xc20b0000, 0xc30b0000, 0xc40b0000, 0xc50b0000, 0xc60b0000, 0xc70b0000,
      0xc8083000, 0xc809c000, 0xc90c4000, 0xc90c5000, 0xc90c6000, 0xc90c7000, 0xc90c8000, 0x640c9000,
      0xca0c9000, 0xcb0c90cc067000, 0xc90ca000, 0xc90cb000, 0xc90cc000, 0xcd0cd000, 0xce0cd000,
      0xcf0cd000, 0xcf0ce000, 0xd008e000, 0xcf0cf000, 0xcf0d0000, 0xcf0d1000, 0xcf0d2000, 0x640d3000,
      0xca0d3000],
    #[0xcb0d30d1067000, 0x640d4000, 0xca0d4000, 0xcb0d40d2067000, 0x640d5000, 0xca0d5000,
      0xcb0d50d3067000, 0xc90d6000, 0xd40d7000, 0x350c903200f000, 0x640c906100f000, 0xd50d7000,
      0x640d8000, 0xca0d8000, 0xcb0d80d6067000, 0x640d9000, 0xca0d9000, 0xcb0d90d7067000, 0xcd0da000,
      0xce0da000, 0xcf0da000, 0xcf0db000, 0xd00dc000, 0xcf0dd000, 0xcf0de000, 0xcf0df000, 0xcf0e0000,
      0x350e103200f000, 0x640e106100f000, 0xcd0e2000, 0xce0e2000, 0xcf0e2000, 0xcf0e3000, 0xd00e4000,
      0xcf0e5000, 0xcf0e6000, 0xcf0e7000, 0xcf0e8000, 0xcd0e9000, 0xce0e9000, 0x780ea000, 0xcf0e9000,
      0xcf0eb000, 0xd00ec000, 0xcf0ed000, 0xcf0ee000, 0xcf0ef000, 0xcf0f0000, 0x7b0ea000, 0x7d0ea000,
      0x800ea000, 0xc90f1000, 0x640f2000, 0xca0f2000, 0xcb0f20d8067000, 0xc90f3000, 0xc90f4000,
      0x350c9000, 0xd90c9000, 0xda0c9000, 0xdb0c9000, 0xdc0c9000, 0xdd0c9000, 0xde0c9000],
    #[0xdf0c9000, 0xe00c9000, 0x350d803200f000, 0x640d806100f000, 0xe10c9000, 0xe20c9000, 0xe30c9000,
      0xe40c9000, 0xe50c9000, 0xe60c9000, 0xe70c9000, 0xe80c9000, 0xe90c9000, 0xea0c9000, 0xeb0c9000,
      0xec0c9000, 0x720f70710f60820f506100f000, 0x6d0c9000, 0x350f803200f000, 0x640f806100f000,
      0xcd0f9000, 0xce0f9000, 0x430fb0420fa03200f000, 0x700c9000, 0x750c9000, 0xcf0f9000, 0xcf0fc000,
      0xd00fd000, 0xcf0fe000, 0xcf0ff000, 0xcf100000, 0xcf101000, 0x3510203200f033009000,
      0x420b404308e000, 0x350d403200f000, 0x640d406100f000, 0xcd103000, 0xce103000,
      0x421040430fb03200f000, 0x711040720fb06100f000, 0x780c9000, 0xcf103000, 0xcf105000, 0xd009e000,
      0xcf106000, 0xcf107000, 0xcf108000, 0xcf109000, 0x7b0c9000, 0x7d0c9000, 0x800c9000,
      0x6410206100f062009000, 0x710b407208e000, 0x3510a03200f000, 0x6410a06100f000, 0xd410b000,
      0xd510b000, 0xd410c000, 0x350d303200f000, 0x640d306100f000, 0xd510c000, 0xd410d000, 0xcd10e000,
      0xce10e000],
    #[0xd510d000, 0xcf10e000, 0xcf10f000, 0xd0110000, 0xcf111000, 0xcf112000, 0xcf113000, 0xcf114000,
      0x64115000, 0x350d503200f000, 0x640d506100f000, 0xca115000, 0xcb1150ed067000,
      0x3511603309c03200f000, 0x3511703200f000, 0x6411706100f000, 0x421180430f703200f000,
      0x711180720f706100f000, 0x6411606209c06100f000, 0xd4119000, 0x3511603309f03200f000,
      0x350d903200f000, 0x640d906100f000, 0xd5119000, 0x710fa0720f706100f000, 0x7811a000, 0x7b11a000,
      0x7d11a000, 0x8011a000, 0x6411606209f06100f000, 0xd411b000, 0x6d0d4000, 0x3511c03200f000,
      0x6411c06100f000, 0xd511b000, 0x700d4000, 0x750d4000, 0x350d3000, 0xd90d3000, 0xda0d3000,
      0xdb0d3000, 0xdc0d3000, 0xdd0d3000, 0xde0d3000, 0xdf0d3000, 0xe00d3000, 0xe10d3000, 0xe20d3000,
      0xe30d3000, 0xe40d3000, 0xe50d3000, 0xe60d3000, 0xe70d3000, 0xe80d3000, 0xe90d3000, 0xea0d3000,
      0xeb0d3000, 0xec0d3000, 0x6d10206c009000, 0x64102062009000, 0x7010206e009000, 0x430ec0420b4000,
      0x720fb0710fa000, 0x350f203200f000],
    #[0x640f206100f000, 0x75102073009000, 0x350d4000, 0xd90d4000, 0xda0d4000, 0xdb0d4000, 0xdc0d4000,
      0xdd0d4000, 0xde0d4000, 0xdf0d4000, 0x780d3000, 0xe00d4000, 0xe10d4000, 0xe20d4000, 0xe30d4000,
      0xe40d4000, 0xe50d4000, 0xe60d4000, 0xe70d4000, 0x7b0d3000, 0xe80d4000, 0xe90d4000, 0xea0d4000,
      0x7d0d3000, 0xeb0d4000, 0xec0d4000, 0x800d3000, 0x711040720fb000, 0x6d0d3000, 0x350d5000,
      0xd90d5000, 0xda0d5000, 0xdb0d5000, 0xdc0d5000, 0x700d3000, 0x750d3000, 0xdd0d5000, 0xde0d5000,
      0xdf0d5000, 0xe00d5000, 0xe10d5000, 0xe20d5000, 0xe30d5000, 0xe40d5000, 0xe50d5000, 0xe60d5000,
      0xe70d5000, 0xe80d5000, 0xe90d5000, 0xea0d5000, 0xeb0d5000, 0xec0d5000, 0x780d5000, 0x7b0d5000,
      0x7d0d5000, 0x800d5000, 0xd411d000, 0x720ec0710b4000, 0x6d0d5000, 0xcd11e000, 0xce11e000,
      0xd511d000, 0x700d5000, 0x750d5000],
    #[0xcf11e000, 0xcf11f000, 0xd0120000, 0xcf121000, 0xcf122000, 0xcf123000, 0xcf124000,
      0x430dc0420b4000, 0x430e40420b4000, 0x720dc0710b4000, 0x720e40710b4000, 0x6d0d9000, 0x700d9000,
      0x750d9000, 0x6d11606c09c000, 0x6411606209c000, 0x7011606e09c000, 0x420b404309e000,
      0x711180720f7000, 0x7511607309c000, 0x350d8000, 0xd90d8000, 0xda0d8000, 0xdb0d8000, 0xdc0d8000,
      0x721260821250710bb000, 0xdd0d8000, 0xde0d8000, 0xdf0d8000, 0xe00d8000, 0x3511803200f000,
      0x6411806100f000, 0xe10d8000, 0xe20d8000, 0xe30d8000, 0xe40d8000, 0xe50d8000, 0xe60d8000,
      0xe70d8000, 0xe80d8000, 0xe90d8000, 0xea0d8000, 0xeb0d8000, 0xec0d8000, 0x710b407209e000,
      0x350d9000, 0xd90d9000, 0xda0d9000, 0xdb0d9000, 0xdc0d9000, 0xdd0d9000, 0xde0d9000, 0xdf0d9000,
      0xe00d9000, 0xe10d9000, 0xe20d9000, 0xe30d9000, 0xe40d9000, 0xe50d9000, 0xe60d9000, 0xe70d9000,
      0xe80d9000, 0xe90d9000, 0xea0d9000],
    #[0xeb0d9000, 0xec0d9000, 0x6d11606c09f000, 0x6411606209f000, 0x7011606e09f000, 0x6d0f2000,
      0x7511607309f000, 0x700f2000, 0x750f2000, 0x821270721260710bb000, 0x780d9000, 0x7b0d9000,
      0x7d0d9000, 0x800d9000, 0x6d0d8000, 0x700d8000, 0x750d8000, 0x431100420b4000, 0x350b40340a0000,
      0x430fd0420b4000, 0x3511503200f000, 0x6411506100f000, 0x350f2000, 0xd90f2000, 0xda0f2000,
      0xdb0f2000, 0xdc0f2000, 0xdd0f2000, 0xde0f2000, 0xdf0f2000, 0xe00f2000, 0xe10f2000, 0xe20f2000,
      0xe30f2000, 0xe40f2000, 0xe50f2000, 0xe60f2000, 0xe70f2000, 0xe80f2000, 0xe90f2000, 0xea0f2000,
      0xeb0f2000, 0xec0f2000, 0x780f2000, 0x7b0f2000, 0x7d0f2000, 0x800f2000, 0xd4128000,
      0x721100710b4000, 0xd5128000, 0x6d0b40630a0000, 0x640b40630a0000, 0x700b406f0a0000,
      0x720fd0710b4000, 0x750b40740a0000, 0x821290721260710bb000, 0x721260820f50710bb000,
      0x4211803200f000, 0x7111806100f000, 0x420fa03200f000, 0x710fa06100f000, 0x4210403200f000,
      0x7110406100f000, 0x6d115000],
    #[0x4212a03200f000, 0x7112a06100f000, 0x70115000, 0x75115000, 0x431200420b4000, 0x35115000,
      0xd9115000, 0xda115000, 0xdb115000, 0xdc115000, 0xdd115000, 0xde115000, 0xdf115000, 0xe0115000,
      0xe1115000, 0xe2115000, 0xe3115000, 0xe4115000, 0xe5115000, 0xe6115000, 0xe7115000, 0xe8115000,
      0xe9115000, 0xea115000, 0xeb115000, 0xec115000, 0x78115000, 0x7b115000, 0x7d115000, 0x80115000,
      0x721200710b4000, 0x350b40340a4000, 0x6d0b40630a4000, 0x640b40630a4000, 0x700b406f0a4000,
      0x750b40740a4000, 0x7812b000, 0x7b12b000, 0x7d12b000, 0x8012b000, 0x420b40430a4000,
      0x710b40720a4000, 0x71118000, 0x710fa000, 0x71104000, 0x7112a000, 0xee12c000,
      0xef12d0d012c0f10400f0036000, 0xee12e000, 0xd012e0f212d0f30400f0036000, 0xee12f000,
      0xd012f0f412d0f50400f0036000, 0xee130000, 0xd01300f612d0f70400f0036000, 0xee0c6000,
      0xf812d0d00c60f90400f0036000, 0xee0c7000, 0xfa12d0d00c70fb0400f0036000, 0xee131000,
      0xd01310fc12d0fd0400f0036000, 0xfe132000, 0xff132000, 0xee0ca000, 0x10012d0d00ca1010400f0036000],
    #[0x350b40340a6000, 0x6d0b40630a6000, 0x640b40630a6000, 0x700b406f0a6000, 0x750b40740a6000,
      0x350b40520ac000, 0x640b41020ac000, 0x1030a5104009000, 0x350b40430ac000, 0x640b40720ac000,
      0x350b40340ad000, 0x350b4052083000, 0x640b4102083000, 0x350b403409c000, 0x6d0b40630ad000,
      0x640b40630ad000, 0x700b406f0ad000, 0x750b40740ad000, 0x350b4043083000, 0x350b403409f000,
      0x630a0000, 0x1050a0000, 0x1060a0000, 0x1030a0000, 0x6d0b406309c000, 0x640b406309c000,
      0x700b406f09c000, 0x750b407409c000, 0x640b4072083000, 0x6d0b406309f000, 0x640b406309f000,
      0x700b406f09f000, 0x750b407409f000, 0x63133000, 0x105133000, 0x106133000, 0x103133000, 0x1070aa000,
      0x103087108009000, 0x109017000, 0x10a017000, 0x109008000, 0x10a008000, 0x10b0f5000, 0xc912c000,
      0x10c034000, 0x10d12c000, 0x10e134000, 0x10f13511000a000, 0x111136000, 0x11212c000, 0x112137000,
      0x113134000, 0x114134000, 0x10c02e000, 0x11513811606a117033000, 0x118009000, 0x10b0ba1190aa000,
      0xc912e000, 0x10d12e000, 0x10e139000, 0x10f13a11a00a000, 0x11113b000, 0x11212e000],
    #[0x11213c000, 0x113139000, 0x114139000, 0x11b0bf000, 0x10b125000, 0xc912f000, 0x10d12f000,
      0x10e13d000, 0x10f13e11c00a000, 0x11113f000, 0x11212f000, 0x112140000, 0x11313d000, 0x11413d000,
      0x10b127000, 0x11d0bf000, 0xc9130000, 0x10d130000, 0x10e127000, 0x10f14111e00a000, 0x111142000,
      0x112130000, 0x112143000, 0x113127000, 0x114127000, 0x11f0aa000, 0x10b129000, 0x120144000,
      0x120145000, 0x121145000, 0x1220a6000, 0x123145124004000, 0x1250a6000, 0x10d0c6000, 0x10e146000,
      0x10f14712600a000, 0x111148000, 0x1120c6000, 0x112149000, 0x113146000, 0x114146000, 0x10d0c7000,
      0x10e0a6000, 0x10f14a12700a000, 0x11114b000, 0x1120c7000, 0x11214c000, 0x1130a6000, 0x1140a6000,
      0xc9131000, 0x10d131000, 0x10e0f5000, 0x10f14d12800a000, 0x11114e000, 0x112131000, 0x11214f000,
      0x1130f5000, 0x1140f5000, 0x1190aa000, 0x129150000, 0x12a0aa000, 0x12b0aa000, 0x12c0aa000,
      0x12d0aa000],
    #[0x11d0aa000, 0x12f15012e138000, 0x122151000, 0x1300aa000, 0x131152000, 0x132153000, 0x133154000,
      0x10d0ca000, 0x10e155000, 0x10f15313400a000, 0x111156000, 0x1120ca000, 0x112157000, 0x123158000,
      0x113155000, 0x114155000, 0x132159000, 0x12015a000, 0x13215b000, 0x12015c000, 0x12015d000,
      0x135008000, 0x13615e000, 0x137008000, 0x13815e000, 0x1390a7000, 0x13d01d13c01c13b01613a008000,
      0x13e09f000, 0x13f154000, 0x11d008000, 0x13502e000, 0x13702e000, 0x1390a8000,
      0x13a02e14201d14101c140016000, 0x13315f000, 0x11d02e000, 0x12115a000, 0x135034000,
      0x12315a143004000, 0x137034000, 0x1390a9000, 0x13a03414601d14501c144016000, 0x133160000,
      0x12115c000, 0x12315c147004000, 0x133161000, 0x12115d000, 0x12315d148004000, 0x120162000,
      0x149083000, 0x14a16314b02f000, 0x121162000, 0x14c09c000, 0x14d0aa000, 0x14e164000, 0x1250aa000,
      0x14f0aa000, 0x150165000, 0x123162151004000, 0x15209c000, 0x1530aa000, 0x154083000, 0x155083000,
      0x156165000],
    #[0x157166000, 0x15809c000, 0x15909c000, 0x15a09c000, 0x15b165000, 0x15c0a7000, 0x15d167000,
      0x15e166000, 0x15f165000, 0x160167000, 0x161083000, 0x111167000, 0x162166000, 0x16309f000,
      0x1640a7165009000, 0x166167000, 0x167154000, 0x167167168032000, 0x14909c000, 0x14c09f000,
      0x4c0bf000, 0x82125000, 0x169125000, 0x16a125000, 0x14e09c000, 0x12509c000, 0x1220bf16b009000,
      0x15209f000, 0x16c125000, 0x16d168000, 0x16e125000, 0x131164000, 0x16f09c000, 0x15509c000,
      0x157125000, 0x15c0a8000, 0x15e125000, 0x17009c000, 0x13f15f000, 0x162125000, 0x1640a8171009000,
      0x14c164000, 0x12509f000, 0x12209c000, 0x123169000, 0x152164000, 0x15c0a9000, 0x13f160000,
      0x1640a9172009000, 0x82127000, 0x169127000, 0x16a127000, 0x1030bf173009000, 0x12209f000,
      0x12316a000, 0x16c127000, 0x16d16b000, 0x16e127000, 0x157127000, 0x15e127000, 0x13f161000,
      0x162127000, 0x122083000, 0x12316c000],
    #[0x1740aa000, 0x1750aa000, 0x82129000, 0x169129000, 0x16a129000, 0x1220ab176009000, 0x177034000,
      0x12316d000, 0x1780aa000, 0x16c129000, 0x16d16e000, 0x1790aa000, 0x16e129000, 0x17a034000,
      0x17d05a17c03417b033000, 0x17e09f000, 0x17f154000, 0x180154000, 0x181154000, 0x182154000,
      0x13316f000, 0x183153000, 0x164153000, 0x184154000, 0x185154000, 0x186154000, 0x187154000,
      0x188154000, 0x189153000, 0x18a154000, 0x18b154000, 0x18c154000, 0x18d154000, 0x18e154000,
      0x18f154000, 0x190154000, 0x191154000, 0x192154000, 0x193154000, 0x15d170000, 0x160170000,
      0x183159000, 0x164159000, 0x166170000, 0x16715f000, 0x167170194032000, 0x189159000, 0x820f5000,
      0x1690f5000, 0x16a0f5000, 0x16c0f5000, 0x16d09f000, 0x16e0f5000, 0x1570f5000, 0x15d171000,
      0x15e0f5000, 0x160171000, 0x1620f5000, 0x18315b000, 0x16415b000, 0x166171000, 0x167160000,
      0x167171195032000, 0x18915b000],
    #[0x630a6000, 0x11d0a6000, 0x1050a6000, 0x1060a6000, 0x1030a6000, 0x139017000, 0x15d172000,
      0x180173000, 0x160172000, 0x166172000, 0x167161000, 0x167172196032000, 0x197174000, 0x1980aa000,
      0x1990aa000, 0x19a0aa000, 0x19b17419c004000, 0x19d0aa000, 0x19e0aa000, 0x19f0aa000, 0x1a0175000,
      0x1a115e000, 0x1a20aa1a3009000, 0x1380aa1a4009000, 0x1a50aa1a6009000, 0x1a70aa000,
      0x1a80661a901b000, 0x1aa176000, 0x1ab167000, 0x1aa1771ac009000, 0x13316f1ad164000, 0x174008000,
      0x1ae09c000, 0x175008000, 0x178008000, 0x17f15f000, 0x18015f000, 0x18115f000, 0x18215f000,
      0x18415f000, 0x18515f000, 0x18615f000, 0x18715f000, 0x18815f000, 0x18a15f000, 0x18b15f000,
      0x18c15f000, 0x18d15f000, 0x18e15f000, 0x18f15f000, 0x19015f000, 0x19115f000, 0x19215f000,
      0x19315f000, 0x17f160000, 0x180160000, 0x181160000, 0x182160000, 0x184160000, 0x185160000,
      0x186160000, 0x187160000, 0x188160000, 0x18a160000],
    #[0x18b160000, 0x18c160000, 0x18d160000, 0x18e160000, 0x18f160000, 0x190160000, 0x191160000,
      0x192160000, 0x193160000, 0x17f161000, 0x181161000, 0x182161000, 0x184161000, 0x185161000,
      0x186161000, 0x187161000, 0x188161000, 0x18a161000, 0x18b161000, 0x18c161000, 0x18d161000,
      0x18e161000, 0x18f161000, 0x190161000, 0x191161000, 0x192161000, 0x193161000, 0x1af003000,
      0x10c008000, 0x1b0008000, 0x1b1017000, 0x1b20aa000, 0x1ae083000, 0x1b3017000, 0x6f178000,
      0x1b40641b5002000, 0x1b615e000, 0x1b7009152008000, 0x1540171b8009000, 0x1ba0171b9009000,
      0x1a515e000, 0x1bc0341bb009000, 0x1be0171bd009000, 0x1bf179000, 0x1c000915a008000,
      0x13e02e1c1009000, 0x17e02e1c2009000, 0x1610171c3009000, 0x1c4164000, 0x1ad0341c5009000,
      0x1b002e000, 0x1b3008000, 0x10516b000, 0x6f16b000, 0x1c6009103008000, 0x150179000, 0x1a109c000,
      0x1c70091a2008000, 0x15202e1c8009000, 0x1c90091ba008000, 0x1ca0091be008000, 0x156179000,
      0x15b179000, 0x15f179000],
    #[0x1aa09c000, 0x1ab170000, 0x1cb0091aa008000, 0x4c008000, 0x10302e1cc009000, 0x1cd009122008000,
      0x1520341ce009000, 0x1aa09f000, 0x1ab171000, 0x1aa02e1cf009000, 0xd417a000, 0xd517a000, 0x4c02e000,
      0x12202e1d0009000, 0x1ab172000, 0x1220171d1009000, 0x10301e1d2009000, 0x1d30aa000, 0x1d40aa000,
      0x1d50aa000, 0x1d60aa000, 0x1d7083000, 0x1b40aa000, 0x1d80aa000, 0x1d90aa000, 0x1da0aa000,
      0x1db0aa000, 0x1dc09c000, 0x1dd09c000, 0x1ba083000, 0x1de17b000, 0x1bc164000, 0x1be083000,
      0x1df17c000, 0x1e017b000, 0x1e10aa000, 0x1e209c000, 0x1e30aa000, 0x1e40aa000, 0x1e517c000,
      0x1ad164000, 0x1e617c000, 0x1e717c000, 0x1e817c000, 0x1e917c000, 0x1ea17c000, 0x1eb17c000,
      0x1ec17c000, 0x6309c000, 0x1d709c000, 0x11d09c000, 0x10609c000, 0x10309c000, 0x1b609c000,
      0x1dc09f000, 0x1dd09f000, 0x1ba09c000, 0x1be09c000, 0x6309f000, 0x11d09f000, 0x7617c000,
      0x10509f000, 0x10609f000, 0x7717c000],
    #[0x10309f000, 0x1dc164000, 0x1dd164000, 0x7917c000, 0x7a17c000, 0x7c17c000, 0x1ed000000, 0x1ee017000,
      0x1ef003000, 0x1f0017000, 0x1f1017000]]⟩

end ProgramGraph.Syntax.Automaton
