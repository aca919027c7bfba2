import ProgramGraph.Syntax.Automaton.Packed

/-! The states of the automaton, and how texts are read in them. -/

namespace ProgramGraph.Syntax.Automaton

set_option maxRecDepth 20000 in
/-- The states. The digits are a reading mode and the rows of shifts, choices and successors. -/
def stateWords : Pages Nat :=
  ⟨#[
    #[0x3a000047d000, 0x4001009001, 0x7002003002, 0x8002003002, 0x9002003002, 0xa002003002, 0xb002003002,
      0xc002003002, 0xd002003002, 0xe002003002, 0xf002003002, 0x10002003002, 0x11002003002, 0x12002003002,
      0x13002003002, 0x14002003002, 0x15002003002, 0x16002003002, 0x17002003002, 0x18002003002,
      0x19002003002, 0x1a002003002, 0x1b002003002, 0x1c002003002, 0x1d002004002, 0x1e002003002,
      0x1f002003002, 0x20002003002, 0x21002003002, 0x22002004002, 0x23002004002, 0x24002003002,
      0x25002003002, 0x26002004002, 0x27002004002, 0x28002004002, 0x29002005002, 0x2a002005002,
      0x2b002005002, 0x2c002005002, 0x2d002005002, 0x2e002005002, 0x2f002005002, 0x30002005002,
      0x31002005002, 0x32002005002, 0x33002005002, 0x34002005002, 0x35002005002, 0x36002005002,
      0x37002005002, 0x38002005002, 0x39002005002, 0x3a002005002, 0x3b002005002, 0x3c002005002,
      0x3d002005002, 0x3e002005002, 0x3f002005002, 0x40002005002, 0x41002005002, 0x42002005002,
      0x43002005002, 0x44002005002],
    #[0x45003009001, 0x4500647d001, 0x46002006002, 0x4600947d002, 0x46002007002, 0x46002008002,
      0xa800a14f003, 0xad00b151003, 0x4800200b004, 0x4900200c004, 0x4a00200d004, 0x4b00200e004,
      0x4d00200f004, 0x4e002010004, 0x4f002011004, 0x50002012004, 0x10e00c150003, 0x10e00d150003,
      0x12700e152003, 0x12800e152003, 0x51002013005, 0x52002014005, 0x53002015005, 0x54002016005,
      0x55002017005, 0x56002018005, 0x57002019005, 0x5800201a005, 0x5900201b005, 0x5a00201c005,
      0x5b00201d005, 0x5c00201e005, 0x5d00201f005, 0x5e002020005, 0x5f002021005, 0x60002022005,
      0x61002023005, 0x62002024005, 0x63002025005, 0x64002026005, 0x65002027005, 0x67002028005,
      0x68002029005, 0x6900202a005, 0x6a00202b005, 0x6b00202c005, 0x6c00202d005, 0x6d00202e005,
      0x6e00202f005, 0x6f002030005, 0x70002031005, 0x71002032005, 0x72002033005, 0x73002034005,
      0x74002035005, 0x75002036005, 0x76002037005, 0x77002038005, 0x78002039005, 0x7900203a005,
      0x7a00203b005, 0x7b00203c005, 0x7c00203d005, 0x7d00203e005],
    #[0x7e00203f005, 0x7f002040005, 0x80002041005, 0x81002042005, 0x82002043005, 0x83002044005,
      0x84002045005, 0x85002046005, 0x86002047005, 0x87002048005, 0x89002049006, 0x8900204a006,
      0x8900204b006, 0x8900204c006, 0x8900204d006, 0x8900204e006, 0x8900204f007, 0x1ba00f12e008,
      0x1ba01012e008, 0x1bb01112f009, 0x1ba01212e00a, 0x1ba01312e00b, 0x1bb01412f00b, 0x1bc01513000c,
      0x1bb01612f00d, 0x1bc01713000c, 0x1bd01811f00e, 0x1bb01912f00f, 0x1be01a131010, 0x1bf01b132011,
      0x1bc01c130011, 0x1c001d133012, 0x1bb01e12f013, 0x1c101f134010, 0x1bc020130014, 0x1c002113300e,
      0x1bd02213500e, 0x1bb02312f015, 0x1c1024134010, 0x1bb02512f015, 0x1bd01813500e, 0x1c1026134016,
      0x1bf02713200d, 0x1bb02812f017, 0x1bb02912f016, 0x1be02a131018, 0x1c002b133019, 0x1c002c120012,
      0x1bd02d13500e, 0x1bb02e12f01a, 0x1be02f13101b, 0x1bb03012f01c, 0x1bb03112f01c, 0x8c00205a01d,
      0x9300207a01e, 0x9500207b01f, 0xb0002051020, 0x9600207c01e, 0x8e0020ee021, 0x8f0020ee021,
      0x900020ee021, 0x9700207d01e, 0x9800207e01f, 0xb1002052020],
    #[0x9900207f01e, 0x9a00208001e, 0x9b00208101f, 0xb2002053020, 0x9c00208201e, 0x9d00208301f,
      0xb3002054020, 0x9700208401e, 0x9e00208501f, 0xb4002055020, 0x9f00208601e, 0xa000208701f,
      0xb5002056020, 0xa100208801e, 0x9b00208901f, 0xb6002057020, 0xa200208a01e, 0xa300208b01f,
      0xb7002058020, 0x9300208c01e, 0xa400208d01f, 0xa500208e01f, 0x9500208f01f, 0x1b4032136022,
      0x1b4033136022, 0xab0020f0021, 0xba002091023, 0xba002092023, 0xba002093023, 0xba002094023,
      0xba002095023, 0xba002096023, 0xba002097023, 0xba002098023, 0xac0020f0021, 0xd600209901e,
      0x1b5034137024, 0xbc0020f1025, 0xd700205c026, 0xbd0020f2025, 0xbe0020f3025, 0xbf0020f1025,
      0xc00020f3025, 0xd800205e026, 0x1b5035137024, 0xc10020f3025, 0xc20020f3025, 0xc30020f3025,
      0xc40020f3025, 0xba0020f2025, 0xc50020f1025, 0xc60020f1025, 0xc90020f4025, 0xca0020f4025,
      0xcb0020f2025, 0xcc0020f2025, 0x10f0360f5027, 0xcd0020f4025, 0xce0020f4025, 0xd900205f026,
      0xda002060026, 0xdb002061026, 0xdc002062026, 0xdd002063026],
    #[0xde002064026, 0xdf002065026, 0xcf0020f2025, 0xd00020f2025, 0xd10020f2025, 0xd20020f3025,
      0xd30020f3025, 0xd40020f3025, 0xd50020f3025, 0xe000209901e, 0xe100209a01f, 0xe200209b01e,
      0xe300209c026, 0xe300209d026, 0xe300209e026, 0xe300209f026, 0xe40020a001e, 0xe50020a101f,
      0xe60020a201e, 0xe30020a3026, 0xe30020a4026, 0xe30020a5026, 0xe30020a6026, 0xe70020a701e,
      0xe80020a801f, 0xe90020a901e, 0xe30020aa026, 0xe30020ab026, 0xe30020ac026, 0xe30020ad026,
      0xea0020a201e, 0xeb0020ae01f, 0xec0020a701e, 0xe30020af026, 0xe30020b0026, 0xe30020b1026,
      0xe30020b2026, 0xed0020b301e, 0xee0020b401f, 0xef0020b301e, 0xe30020b5026, 0xe30020b6026,
      0xe30020b7026, 0xe30020b8026, 0xf00020a901e, 0xf10020b901f, 0xf20020ba01e, 0xe30020bb026,
      0xe30020bc026, 0xe30020bd026, 0xe30020be026, 0xf30020ba01e, 0xf40020bf01f, 0xe30020c0026,
      0xe30020c1026, 0xe30020c2026, 0xe30020c3026, 0xf500209b01e, 0xf60020c401f, 0xe30020c5026,
      0xe30020c6026, 0xe30020c7026, 0xe30020c8026, 0xf70370f601e],
    #[0xf70380f601e, 0xe30020f7025, 0xfa039121028, 0xfa03a121028, 0xfa03a121028, 0xfa03b121028,
      0xf803c0f801f, 0x12903d10c029, 0xf803e0f801f, 0x12903f10c029, 0xfb04012202a, 0xfb04112202a,
      0xfb04112202a, 0xfb04212202a, 0xf90430f902b, 0xf90440f902b, 0xfc04512302c, 0xfc04612302c,
      0xfc04612302c, 0xfc04712302c, 0x1bb04812f02d, 0x1100490fa02e, 0x11104a0fb02e, 0xfd0020ca02f,
      0xfd0020cb02f, 0xf70020f6021, 0x11204b0fc030, 0x11304c0fd031, 0xfd0020cc02f, 0xfd0020cd02f,
      0xf80020f8021, 0xfd0020ce02f, 0xfd0020cf02f, 0xf90020f9021, 0xfd0020d002f, 0xfd0020d102f,
      0xfd0020d202f, 0xfd0020d302f, 0xfd0020d402f, 0xfd0020d502f, 0xfd0020d602f, 0xfd0020d702f,
      0xfd0020d802f, 0xfd0020d902f, 0x11404d10d032, 0x12a04e10d02e, 0x12b04f0fe033, 0x12a05010d02e,
      0x1150020da033, 0x12c0510ff033, 0xfd002100025, 0x1150020db033, 0x1bb05212f034, 0x1bb05312f034,
      0x1150020dc033, 0x1150020dd033, 0x1150020de033, 0x1150020df033, 0x1150020e0033, 0x1150020e1033,
      0x1150020e2033, 0x1150020e3033, 0x1150020e4033, 0x1150020e5033],
    #[0x1150020e6033, 0x1150020e7033, 0x1150020e8033, 0x1150020e9033, 0x1150020ea033, 0x1150020eb033,
      0x1150020ec033, 0x1150020ed033, 0xfe00210e035, 0xff00210e035, 0x1bb05412f036, 0x12a05510d032,
      0x116002101035, 0x12d05610d032, 0x12d05710d032, 0x11705810f035, 0x1bb05912f037, 0x12a05a10d032,
      0x12d05b10d032, 0x12d05c10d032, 0x118002102038, 0x11705d10f035, 0x12e051110033, 0x100002111035,
      0x118002103038, 0x12f05e110033, 0x101002111035, 0x13005f110033, 0x115002101035, 0x102002111035,
      0x103002111035, 0xfa002111035, 0x1bb06012f039, 0x131061112038, 0x131062112038, 0x1bb06312f037,
      0x1bb06412f03a, 0x132065110033, 0x132066110033, 0x104002113035, 0x105002113035, 0x106002113035,
      0x107002113035, 0xfb002113035, 0x108002114035, 0x109002114035, 0x10a002114035, 0x10b002114035,
      0xfc002114035, 0x119002101035, 0x11a002101035, 0x11b002101035, 0x11c002101035, 0x11d002101035,
      0x11e002101035, 0x11f002101035, 0x120002101035, 0x121002101035, 0x10c00210e035, 0x10d00210e035,
      0x12200210d035, 0x3a006726703b, 0x2d706729003c, 0x133002104035],
    #[0x12300210f035, 0x133002105035, 0x12400210f035, 0x134002106035, 0x135002107035, 0x11700210f035,
      0x2d706829003c, 0x13606910f035, 0x13606a10f035, 0x133002108035, 0x118002112035, 0x133002109035,
      0x13700210a035, 0x13800210b035, 0x12500210f035, 0x12600210f035, 0x3a006726803b, 0x13900210d035,
      0x13a00210f035, 0x13b00210f035, 0x13c00210d035, 0x13d00210d035, 0x13e002115035, 0x13f00210d035,
      0x14000210d035, 0x14100210c035, 0x14200210d035, 0x14300210d035, 0x14400210d035, 0x14500210d035,
      0x14600210f035, 0x14700210d035, 0x14800210d035, 0x12a00210d035, 0x14900210d035, 0x25c06b26903d,
      0x14a00210d035, 0x14b002116035, 0x14c00210f035, 0x14d00210d035, 0x14e002117035, 0x25d06c26903d,
      0x25e06d26903d, 0x14f00210d035, 0x150002112035, 0x151002112035, 0x12d00210d035, 0x15200210f035,
      0x13300210f035, 0x25f06e26903d, 0x15300210f035, 0x15400210f035, 0x15500210f035, 0x156002118035,
      0x157002117035, 0x158002112035, 0x159002117035, 0x15a002117035, 0x15b002117035, 0x15c002117035,
      0x12900210c035, 0x26006f26a03e, 0x15d002117035, 0x26107026a03e],
    #[0x26207126a03e, 0x15e002117035, 0x26307226a03e, 0x15f00210f035, 0x16000210f035, 0x16100210f035,
      0x16200210f035, 0x16300210f035, 0x13600210f035, 0x16400210f035, 0x16500210f035, 0x166002119035,
      0x167002119035, 0x168002119035, 0x169002119035, 0x16a002119035, 0x16b002119035, 0x16c002119035,
      0x16d002116035, 0x16e002116035, 0x16f002116035, 0x170002116035, 0x171002116035, 0x172002116035,
      0x173002116035, 0x17400210c035, 0x17500210c035, 0x17600210c035, 0x17700210c035, 0x17800210c035,
      0x17900210c035, 0x17a00210c035, 0x17b002112035, 0x17c002112035, 0x17d002112035, 0x17e002112035,
      0x17f002112035, 0x180002112035, 0x181002112035, 0x182002110035, 0x183002110035, 0x184002110035,
      0x185002110035, 0x186002110035, 0x187002110035, 0x188002110035, 0x189002117035, 0x15600211a035,
      0x18a002112035, 0x18b00210c035, 0x18c002112035, 0x18d002119035, 0x18e002112035, 0x18f002110035,
      0x131002112035, 0x19000210f035, 0x19100211b035, 0x192002116035, 0x19300210c035, 0x132002110035,
      0x194002119035, 0x19500211c035, 0x19600210f035, 0x197002116035],
    #[0x19800211d035, 0x19900210c035, 0x19a00211e035, 0x19b002112035, 0x19c002110035, 0x19d00210f035,
      0x19e00210f035, 0x19f00210f035, 0x1a000210f035, 0x1a100210f035, 0x1a200210f035, 0x1a300210f035,
      0x1a400210f035, 0x1a500210f035, 0x1a600210f035, 0x2d807335903b, 0x3a007447d03b, 0x26807529103f,
      0x26907629103f, 0x26a07729103f, 0x2aa07847d03d, 0x26b07929103f, 0x26c07a292040, 0x26d07b292040,
      0x26e07c292040, 0x2ab07d47d03e, 0x26f07e292040, 0x3a006747d03b, 0x3a006747d03b, 0x3a006847d03b,
      0x3a006847d03b, 0x3a007f47d041, 0x3a008047d041, 0x3a008147d041, 0x3a008247d041, 0x3a008247d041,
      0x3a008347d041, 0x3a008447d041, 0x3a008547d042, 0x3a008647d042, 0x3a008747d041, 0x3a008847d042,
      0x3a008947d042, 0x3a008a47d041, 0x3a008b47d042, 0x3a008c47d041, 0x3a008c47d041, 0x2ac08d47d03f,
      0x3a008e47d041, 0x3a008f47d043, 0x3a009047d043, 0x3a009147d043, 0x3a009247d043, 0x3a009347d043,
      0x2ad09447d040, 0x3a009547d041, 0x3a009647d041, 0x3a009747d041, 0x3a009847d041, 0x3a009947d041,
      0x3a009a47d03d, 0x3a009b47d03d, 0x3a009c47d03d, 0x3a009b47d03d],
    #[0x3a009d47d03d, 0x3a009e47d03d, 0x3a009d47d03d, 0x3a009e47d03d, 0x3a009e47d03d, 0x3a009f47d03d,
      0x3a00a047d03d, 0x3a00a047d03d, 0x3a009f47d03d, 0x3a00a147d03d, 0x3a00a247d03e, 0x3a00a347d03e,
      0x3a00a447d03e, 0x3a00a347d03e, 0x3a00a547d03e, 0x3a00a647d03e, 0x3a00a547d03e, 0x3a00a647d03e,
      0x3a00a647d03e, 0x3a00a747d03e, 0x3a00a847d03e, 0x3a00a847d03e, 0x3a00a747d03e, 0x3a00a947d03e,
      0x1b60aa138044, 0x1b60ab138044, 0x2d90ac35a045, 0x2da06c35b046, 0x3a00ad47d03f, 0x2db0ae35a045,
      0x2dc0af35b046, 0x2dd06e35b046, 0x2de0b035a045, 0x2df0b135b046, 0x2e00b235a045, 0x2e10b335a045,
      0x3a00b447d03f, 0x2e20b535a045, 0x3a00b647d03f, 0x2e30b735c047, 0x2e407035d048, 0x3a00b847d040,
      0x2e50b935c047, 0x2e60ba35d048, 0x2e707235d048, 0x2e80bb35c047, 0x2e90bc35d048, 0x2ea0bd35c047,
      0x2eb0be35c047, 0x3a00bf47d040, 0x2ec0c035c047, 0x3a00c147d040, 0x1a8002124049, 0x3a00c247d046,
      0x3a00c347d046, 0x3a00c447d048, 0x3a00c547d048, 0x1a9002125049, 0x1aa00213904a, 0x1ab00213904a,
      0x3a00c647d001, 0x1b70c713a049, 0x1ac00213904a, 0x1b70c813a049],
    #[0x1ad00213904a, 0x3a00c947d001, 0x3a00ca47d001, 0x3a006c47d001, 0x3a00cb47d001, 0x3a00cc47d001,
      0x3a007647d001, 0x3a00cd47d001, 0x3a00ce47d001, 0x3a00cf47d001, 0x3a00d047d001, 0x3a00af47d001,
      0x3a006e47d001, 0x3a00d147d001, 0x3a00d247d001, 0x3a00d347d001, 0x3a00d447d001, 0x3a00d547d001,
      0x3a00d647d001, 0x3a007947d001, 0x3a00d747d001, 0x3a00d847d001, 0x3a00d947d001, 0x3a00da47d001,
      0x3a00db47d001, 0x3a00dc47d001, 0x3a00dd47d001, 0x3a00b147d001, 0x3a00de47d001, 0x3a00df47d001,
      0x3a00e047d001, 0x3a00e147d001, 0x3a00e247d001, 0x3a00e347d001, 0x3a00e447d001, 0x3a00e547d001,
      0x3a00e647d001, 0x3a00e747d001, 0x3a00e847d001, 0x3a00e947d001, 0x3a00ea47d001, 0x3a00eb47d001,
      0x3a00ec47d001, 0x3a00ed47d001, 0x3a00ee47d001, 0x3a00b547d001, 0x3a00ef47d001, 0x3a00f047d001,
      0x3a00f147d001, 0x3a00f247d001, 0x3a00f347d001, 0x3a00f447d001, 0x3a00f547d001, 0x1b80f613904b,
      0x3a00f747d002, 0x1b90f813b04c, 0x1b80f913904b, 0x1b90fa13b04c, 0x3a00fb47d002, 0x3a00fc47d002,
      0x3a007047d002, 0x3a00fd47d002, 0x3a00fe47d002, 0x3a007b47d002],
    #[0x3a00ff47d002, 0x3a010047d002, 0x3a010147d002, 0x3a010247d002, 0x3a00ba47d002, 0x3a007247d002,
      0x3a010347d002, 0x3a010447d002, 0x3a010547d002, 0x3a010647d002, 0x3a010747d002, 0x3a010847d002,
      0x3a007e47d002, 0x3a010947d002, 0x3a010a47d002, 0x3a010b47d002, 0x3a010c47d002, 0x3a010d47d002,
      0x3a010e47d002, 0x3a010f47d002, 0x3a00bc47d002, 0x3a011047d002, 0x3a011147d002, 0x3a011247d002,
      0x3a011347d002, 0x3a011447d002, 0x3a011547d002, 0x3a011647d002, 0x3a011747d002, 0x3a011847d002,
      0x3a011947d002, 0x3a011a47d002, 0x3a011b47d002, 0x3a011c47d002, 0x3a011d47d002, 0x3a011e47d002,
      0x3a011f47d002, 0x3a012047d002, 0x3a00c047d002, 0x3a012147d002, 0x3a012247d002, 0x3a012347d002,
      0x3a012447d002, 0x3a012547d002, 0x3a012647d002, 0x3a012747d002, 0x1ae00213904a, 0x1af00213904a,
      0x1b000213904a, 0x1b100213904a, 0x1b200213904a, 0x1b300213904a, 0x1b500213704a, 0x1b800213904a,
      0x1b700213a04a, 0x1b900213b04a, 0x1b600213804a, 0x1b400213604a, 0x1c212813c04a, 0x1c312913d049,
      0x1c400212604d, 0x1c500212704d, 0x1c600212804d, 0x1c700212904d],
    #[0x1c800212a04d, 0x1c900212b04d, 0x1ca00212c04d, 0x1cb00212d04d, 0x24a12a06704e, 0x1cc00213e04a,
      0x1cd00212e04a, 0x1ce00213f04a, 0x1cf00214004a, 0x1d000212e04a, 0x1d100212e04a, 0x1c400212e04a,
      0x1d200212e04a, 0x1d300212e04a, 0x1d400212e04a, 0x1d500212e04a, 0x1d600212e04a, 0x1cc00214104a,
      0x1d700213504a, 0x1d800213504a, 0x1c500213504a, 0x1d900213504a, 0x1da00213504a, 0x1db00213504a,
      0x1dc00213504a, 0x1dd00213504a, 0x1de00212f04a, 0x1df00212f04a, 0x1c600212f04a, 0x1e000212f04a,
      0x1e100212f04a, 0x1e200212f04a, 0x1e300212f04a, 0x1e400212f04a, 0x24b12b06904f, 0x1e500213404a,
      0x1e600213404a, 0x1c700213404a, 0x1e700213404a, 0x1e800213404a, 0x1e900213404a, 0x1ea00213404a,
      0x1eb00213404a, 0x24c12c06b050, 0x1ec00213204a, 0x1ed00213204a, 0x1c800213204a, 0x1ee00213204a,
      0x1ef00213204a, 0x1f000213204a, 0x1f100213204a, 0x1f200213204a, 0x24d12d06d050, 0x1f300213004a,
      0x1f400213004a, 0x1c900213004a, 0x1f500213004a, 0x1f600213004a, 0x1f700213004a, 0x1f800213004a,
      0x1f900213004a, 0x1fa00213304a, 0x1fb00213304a, 0x1ca00213304a],
    #[0x1fc00213304a, 0x1fd00213304a, 0x1fe00213304a, 0x1ff00213304a, 0x20000213304a, 0x20100213104a,
      0x20200213104a, 0x1cb00213104a, 0x20300213104a, 0x20400213104a, 0x20500213104a, 0x20600213104a,
      0x20700213104a, 0x1ce00214204a, 0x20800213504a, 0x20900214304a, 0x20a00214404a, 0x20900214504a,
      0x20b00212f04a, 0x20c00214604a, 0x20d00214704a, 0x20e00213404a, 0x20f00214804a, 0x20f00214904a,
      0x21000213204a, 0x21100214a04a, 0x21200213004a, 0x20c00214b04a, 0x21300213304a, 0x21400214c04a,
      0x21500213104a, 0x21600214d04a, 0x21700214e04a, 0x21800214704a, 0x21900214904a, 0x21a00214b04a,
      0x24a12e06e04e, 0x2ae12f35e051, 0x2af13035e051, 0x2af13147d051, 0x24e132070052, 0x24f133072053,
      0x250134074052, 0x2b013524604e, 0x2b013624604e, 0x2b013724604e, 0x2b01381c604e, 0x2b013915304e,
      0x2b013724604e, 0x2b013a1d604e, 0x2b013b16a04e, 0x2b013c1a904e, 0x2b013d1be04e, 0x2b113e35f054,
      0x2b213f35f054, 0x2b214047d054, 0x2b3141360055, 0x2b4142360055, 0x2b414347d055, 0x2b5144361055,
      0x2b6145361055, 0x2b614647d055, 0x25114707604f, 0x3a014847d051],
    #[0x3a014947d056, 0x3a014947d056, 0x3a014a47d056, 0x3a014b47d051, 0x2b714c362057, 0x2b814d362057,
      0x2b814e47d057, 0x2b914f363058, 0x2ba150363058, 0x2ba15147d058, 0x2bb15224704f, 0x2bb15324704f,
      0x2bb15424704f, 0x2bb1551c704f, 0x2bb15615404f, 0x2bb15424704f, 0x2bb1571d704f, 0x2bb15816b04f,
      0x2bb1591aa04f, 0x2bb15a1bf04f, 0x2ed15b364059, 0x2ee15c364059, 0x2bc15d248050, 0x2bc15e248050,
      0x2bc15f248050, 0x2bc1601c8050, 0x2bc161155050, 0x2bc15f248050, 0x2bc1621d8050, 0x2bc16316c050,
      0x2bc1641ab050, 0x2bc1651c0050, 0x2bd166249050, 0x2bd167249050, 0x3a016847d050, 0x2bd169249050,
      0x2bd16a1c9050, 0x2bd16b156050, 0x2bd169249050, 0x2bd16c1d9050, 0x2bd16d16d050, 0x2bd16e1ac050,
      0x2bd16f1c1050, 0x3a017047d050, 0x3a017147d050, 0x3a017147d050, 0x3a017247d050, 0x250173077052,
      0x2be174365057, 0x2bf175365057, 0x2bf17647d057, 0x25117707804f, 0x24d178079050, 0x3a012f47d04e,
      0x3a017947d04e, 0x3a017947d04e, 0x3a017a47d04e, 0x3a017b47d04e, 0x3a017c47d04e, 0x3a017d47d04e,
      0x3a017e47d04e, 0x3a017f47d04e, 0x3a018047d04e, 0x3a018147d04e],
    #[0x3a018236605a, 0x3a018236605a, 0x3a018336705a, 0x3a018447d04e, 0x3a018547d04e, 0x3a018647d04e,
      0x3a018747d04e, 0x3a018847d04e, 0x3a018947d04e, 0x3a018a47d04e, 0x3a018b47d04e, 0x3a018c47d04e,
      0x3a018d47d04e, 0x3a018e47d04e, 0x3a018f47d04e, 0x3a019047d059, 0x3a019147d04e, 0x2ef192368056,
      0x2f0193368056, 0x2c019424a052, 0x2c019524a052, 0x3a019647d059, 0x3a019647d059, 0x3a019747d04e,
      0x3a019847d04e, 0x2c019924a052, 0x2c019a1ca052, 0x2c019b157052, 0x2c019924a052, 0x2c019c1da052,
      0x2c019d16e052, 0x2c019e1ad052, 0x2c019f1c2052, 0x3a01a047d05b, 0x3a01a047d05b, 0x3a01a147d04e,
      0x3a01a147d04e, 0x3a01a247d05b, 0x3a01a247d05b, 0x3a01a347d05b, 0x2c11a424b053, 0x2c11a524b053,
      0x3a01a647d05b, 0x3a01a647d05b, 0x3a01a747d05b, 0x3a01a847d04e, 0x2c11a924b053, 0x2c11aa1cb053,
      0x2c11ab158053, 0x2c11a924b053, 0x2c11ac1db053, 0x2c11ad16f053, 0x2c11ae1ae053, 0x2c11af1c3053,
      0x3a01b047d04e, 0x3a01b147d04e, 0x3a01b147d04e, 0x3a01b247d04e, 0x3a01b347d05b, 0x3a01b447d04e,
      0x2f11b536905a, 0x2f21b636905a, 0x3a01b747d054, 0x3a01b847d054],
    #[0x3a01b947d055, 0x3a01ba47d059, 0x3a01ba47d059, 0x3a01bb47d059, 0x3a01bc47d055, 0x3a01bd47d055,
      0x2c21be24c052, 0x2c21bf24c052, 0x3a01c047d055, 0x2c21c124c052, 0x2c21c21cc052, 0x2c21c3159052,
      0x2c21c124c052, 0x2c21c41dc052, 0x2c21c5170052, 0x2c21c61af052, 0x2c21c71c4052, 0x2c31c836a054,
      0x3a01c947d05b, 0x3a01c947d05b, 0x3a01ca47d05b, 0x2c41cb36a054, 0x2c41cc47d054, 0x3a01cd47d05a,
      0x3a01cd47d05a, 0x2f31ce35905c, 0x2d81cf35905c, 0x3a01d047d05a, 0x3a01d047d05a, 0x3a01d147d05a,
      0x3a01d247d05a, 0x3a01d347d057, 0x3a01d447d059, 0x3a01d447d059, 0x3a01d547d05c, 0x3a01d547d05c,
      0x3a01d647d05c, 0x3a01d747d057, 0x3a01d847d059, 0x3a01d947d052, 0x3a01da47d052, 0x3a01db47d052,
      0x3a01db47d052, 0x3a01dc47d052, 0x3a01dd47d059, 0x3a01de47d058, 0x3a01df47d050, 0x2ed1e0364059,
      0x2ee1e1364059, 0x3a01e247d058, 0x3a01e347d050, 0x3a01e447d050, 0x3a013e47d04f, 0x3a018247d05a,
      0x3a018247d05a, 0x3a018347d05a, 0x3a01e547d04f, 0x3a01e547d04f, 0x3a01e647d04f, 0x3a01e747d04f,
      0x3a01e847d04f, 0x3a01e947d04f, 0x3a01ea47d04f, 0x3a01eb47d04f],
    #[0x3a01ec47d04f, 0x3a01ed47d04f, 0x3a01ee47d04f, 0x3a01ef47d04f, 0x3a01f047d04f, 0x3a01f147d04f,
      0x3a01f247d04f, 0x3a01f347d04f, 0x3a01f447d04f, 0x3a01f547d04f, 0x3a01f647d04f, 0x3a01f747d04f,
      0x3a01f847d04f, 0x3a01f947d04f, 0x3a014147d050, 0x3a01fa47d050, 0x3a01fb47d050, 0x3a01fc47d050,
      0x3a01fd47d050, 0x3a01fd47d050, 0x3a01fe47d04f, 0x3a01ff47d05a, 0x3a01ff47d05a, 0x3a020047d05a,
      0x3a020147d050, 0x3a020247d050, 0x3a020247d050, 0x3a020347d050, 0x3a020447d050, 0x3a020547d050,
      0x3a020647d050, 0x3a020747d050, 0x3a020847d050, 0x3a020947d050, 0x3a020a47d04f, 0x3a020b47d050,
      0x3a020c47d050, 0x3a020d47d050, 0x3a020e47d050, 0x3a020f47d050, 0x3a021047d050, 0x3a021147d050,
      0x3a021247d050, 0x3a021347d04f, 0x3a021447d050, 0x3a021547d050, 0x3a021647d050, 0x3a021747d04f,
      0x3a021747d04f, 0x3a021847d050, 0x3a021947d050, 0x3a021a47d04f, 0x3a014447d050, 0x3a021b47d050,
      0x3a021c47d04f, 0x3a021d47d050, 0x3a021d47d050, 0x3a021e47d050, 0x3a021f47d050, 0x3a022047d050,
      0x3a022147d050, 0x3a022247d04f, 0x3a022347d04f, 0x3a022447d050],
    #[0x3a022547d050, 0x3a022647d050, 0x3a022747d050, 0x3a022847d050, 0x3a022947d050, 0x3a022a47d050,
      0x3a022b47d050, 0x3a022c47d050, 0x3a022d47d050, 0x3a022e47d050, 0x3a022f47d050, 0x3a023047d050,
      0x3a023147d050, 0x3a023247d050, 0x3a023347d050, 0x3a023447d050, 0x3a023547d050, 0x3a023647d050,
      0x3a023647d050, 0x3a023747d050, 0x3a023847d057, 0x3a023947d050, 0x3a023a47d050, 0x2c523b24d04f,
      0x2c523c24d04f, 0x3a023d47d057, 0x3a023e47d050, 0x3a023f47d050, 0x2c524024d04f, 0x2c52411cd04f,
      0x2c524215a04f, 0x2c524024d04f, 0x2c52431dd04f, 0x2c524417104f, 0x2c52451b004f, 0x2c52461c504f,
      0x3a024747d04f, 0x3a024747d04f, 0x3a024847d050, 0x3a024847d050, 0x3a024947d04f, 0x3a024a47d050,
      0x3a024b47d053, 0x3a024c47d053, 0x3a024d47d053, 0x3a014c47d052, 0x3a024e47d052, 0x3a024f47d052,
      0x3a025047d052, 0x3a025147d053, 0x3a025147d053, 0x3a025247d052, 0x3a025347d052, 0x3a025447d052,
      0x3a025447d052, 0x3a025547d052, 0x3a025647d052, 0x3a025747d052, 0x3a025847d052, 0x3a025947d04e,
      0x3a025a47d052, 0x3a025b47d052, 0x3a025c47d052, 0x3a025d47d052],
    #[0x3a025e36605a, 0x3a025e36605a, 0x3a025f36705a, 0x3a026047d052, 0x3a026147d052, 0x3a026247d052,
      0x3a026347d052, 0x3a026447d052, 0x3a026547d052, 0x3a026647d052, 0x3a026747d052, 0x3a026847d052,
      0x3a026947d052, 0x3a026a47d052, 0x3a026b47d052, 0x3a014f47d053, 0x3a026c47d053, 0x3a026d47d053,
      0x3a026d47d053, 0x3a026e47d053, 0x3a026f47d053, 0x3a027047d053, 0x3a027147d053, 0x3a027247d053,
      0x3a027347d053, 0x3a027447d053, 0x3a027547d053, 0x3a027647d053, 0x3a027747d053, 0x3a027847d053,
      0x3a027947d053, 0x3a027a47d053, 0x3a027b47d053, 0x3a027c47d053, 0x3a027d47d053, 0x3a027e47d053,
      0x3a027f47d053, 0x3a028047d053, 0x3a028147d053, 0x3a028247d04f, 0x3a028347d04f, 0x3a028447d04f,
      0x3a028547d052, 0x3a028647d04f, 0x3a028747d052, 0x3a028847d052, 0x3a028947d052, 0x3a028a47d053,
      0x3a028b47d053, 0x3a028c47d053, 0x3a028c47d053, 0x3a028d47d053, 0x3a028e47d052, 0x3a028f47d052,
      0x3a029047d052, 0x3a029147d052, 0x3a029147d052, 0x3a029247d041, 0x3a029247d041, 0x3a017447d052,
      0x3a029347d052, 0x3a029347d052, 0x3a029447d059, 0x3a029447d059],
    #[0x3a029547d059, 0x3a029647d052, 0x3a029647d052, 0x3a029747d052, 0x3a029847d052, 0x3a029947d052,
      0x3a029a47d052, 0x3a029b47d052, 0x3a029c47d052, 0x3a029d47d052, 0x3a029e47d052, 0x3a029f47d052,
      0x3a02a047d052, 0x3a02a147d052, 0x3a02a247d052, 0x3a02a347d052, 0x3a02a447d052, 0x3a02a547d052,
      0x3a02a647d052, 0x3a02a747d052, 0x3a02a847d052, 0x3a02a947d052, 0x3a02aa47d052, 0x3a02ab47d052,
      0x3a02ac47d052, 0x3a02ad47d052, 0x3a02ad47d052, 0x3a02ae47d052, 0x3a02af47d054, 0x3a02b047d052,
      0x3a02b147d054, 0x3a02b247d041, 0x3a02b347d041, 0x3a02b447d041, 0x3a02b547d052, 0x3a02b647d041,
      0x3a02b747d053, 0x3a02b847d04f, 0x3a02b947d05a, 0x3a02b947d05a, 0x3a02ba47d05a, 0x3a02bb47d059,
      0x3a02bb47d059, 0x3a02bc47d059, 0x3a02bd47d05b, 0x3a02bd47d05b, 0x3a02be47d05b, 0x3a02bf47d04f,
      0x3a02c047d05c, 0x3a02c047d05c, 0x3a02c147d05c, 0x3a02c247d04f, 0x3a02c347d04f, 0x3a01c847d04f,
      0x3a02c447d04f, 0x3a02c447d04f, 0x3a02c547d04f, 0x3a02c547d04f, 0x3a02c647d04f, 0x3a02c747d04f,
      0x3a02c847d04f, 0x3a02c947d04f, 0x3a02ca47d04f, 0x3a02cb47d04f],
    #[0x3a02cc47d04f, 0x3a02cd47d04f, 0x3a02ce47d04f, 0x3a02cf47d04f, 0x3a02d047d04f, 0x3a02d147d04f,
      0x3a02d247d04f, 0x3a02d347d04f, 0x3a02d447d04f, 0x3a02d547d04f, 0x3a02d647d04f, 0x3a02d747d04f,
      0x3a02d847d04f, 0x3a02d947d04f, 0x3a02da47d04f, 0x3a02db47d04f, 0x3a02dc47d04f, 0x3a02dc47d04f,
      0x3a02dd47d04f, 0x3a02de47d04f, 0x3a02df47d05d, 0x3a02df47d05d, 0x3a02e047d05d, 0x3a02e147d05d,
      0x3a02e247d05d, 0x3a02e347d05d, 0x3a02e447d05d, 0x3a02e547d05d, 0x3a02e647d05d, 0x3a02e647d05d,
      0x3a02e747d05d, 0x3a02e847d05d, 0x3a02e847d05d, 0x3a02e947d05d, 0x3a02ea47d052, 0x3a02eb47d04f,
      0x3a02ec47d050, 0x3a02ed47d053, 0x21c00215c05e, 0x21d00215d05e, 0x21e00217305f, 0x21f002175060,
      0x22000217605f, 0x22100217705f, 0x222002178060, 0x22100217905f, 0x22200217a060, 0x22100217b05f,
      0x22100217c05f, 0x22300217d05f, 0x22400217e060, 0x22500217f05f, 0x22100218005f, 0x222002181060,
      0x22100218205f, 0x222002183060, 0x22100218405f, 0x22100218505f, 0x22600218605f, 0x227002187060,
      0x22800218805f, 0x22100218905f, 0x22200218a060, 0x22100218b05f],
    #[0x22200218c060, 0x22100218d05f, 0x22100218e05f, 0x22900218f05f, 0x22a002190060, 0x22b00219105f,
      0x22100219205f, 0x222002193060, 0x22100219405f, 0x222002195060, 0x22100219605f, 0x22100219705f,
      0x22c0021b1061, 0x22d0021b2061, 0x22e0021b1061, 0x2210021b3061, 0x2220021b4061, 0x22f002198062,
      0x230002199062, 0x23000219a062, 0x23000219b062, 0x23100219c062, 0x23000219d062, 0x23000219e062,
      0x23000219f062, 0x2320021a0062, 0x2300021a1062, 0x2300021a2062, 0x2300021a3062, 0x2330021a4062,
      0x2300021a5062, 0x2300021a6062, 0x2300021a7062, 0x2300021b5061, 0x2702ee1ce041, 0x2702ef47d041,
      0x2340021b6061, 0x2350021b7061, 0x2360021b8061, 0x2370021b9061, 0x2380021ba061, 0x2390021bb061,
      0x23a0021bc061, 0x23b0021bd061, 0x2712f01cf063, 0x2712f147d063, 0x2722f21d005d, 0x2722f347d05d,
      0x2732f41d1064, 0x2732f547d064, 0x2742f61d2065, 0x2742f747d065, 0x2752f81d3065, 0x2752f947d065,
      0x2762fa1d4063, 0x2762fb47d063, 0x3a02fc47d04a, 0x3a02fd47d04a, 0x2772fe1d5066, 0x2772ff47d066,
      0x3a030047d050, 0x3a030047d050, 0x3a030147d050, 0x3a030247d050],
    #[0x3a030347d050, 0x3a030447d050, 0x3a030547d052, 0x3a030547d052, 0x3a030647d052, 0x2f403236b067,
      0x2f430747d067, 0x3a030847d052, 0x3a030847d052, 0x3a030947d052, 0x2c100215e053, 0x3a030a47d053,
      0x3a030a47d053, 0x3a030b47d053, 0x3a030b47d053, 0x3a030c47d053, 0x3a030d47d052, 0x3a030d47d052,
      0x3a030e47d053, 0x3a030f47d053, 0x3a031047d053, 0x3a031147d053, 0x3a031247d053, 0x3a031247d053,
      0x3a031347d04f, 0x3a031347d04f, 0x3a031447d067, 0x3a031547d067, 0x3a031647d067, 0x3a031747d067,
      0x3a031847d052, 0x3a031947d052, 0x3a031a47d052, 0x3a031b47d052, 0x3a031c47d053, 0x3a031d47d04f,
      0x3a031e47d04f, 0x3a031f47d04f, 0x3a032047d04f, 0x2c1002158053, 0x2c100215f053, 0x2c1002160053,
      0x2c1002161053, 0x2c1002162053, 0x2c1002163053, 0x2c1002164053, 0x2c1002165053, 0x2c1002166053,
      0x23c0021fb068, 0x2f5002168069, 0x3a032147d069, 0x2f603436c069, 0x3a032247d069, 0x3a032347d069,
      0x3a032447d069, 0x3a03251a8067, 0x2f632647d069, 0x23d0021fc068, 0x23e0021fd068, 0x2f7002169069,
      0x23f0021fe068, 0x2400021ff068, 0x241002200068, 0x242002201068],
    #[0x243002202068, 0x244002203068, 0x245002204068, 0x246002205068, 0x24700220606a, 0x3a00021a8069,
      0x248327226068, 0x248328226068, 0x24932922706a, 0x24932a22706a, 0x24800222606b, 0x27832b207063,
      0x24900222706b, 0x3a032c47d041, 0x27932d1de065, 0x3a032e47d041, 0x3a032f24e041, 0x3a0330293041,
      0x3a0331293041, 0x3a033247d041, 0x3a033336d041, 0x3a033424e041, 0x3a033524e041, 0x27a32d1de065,
      0x27b32d1de065, 0x27c32d1de065, 0x27d32d1de065, 0x27e32d1de065, 0x27f32d1de065, 0x28032d1de065,
      0x25200220806c, 0x25300220906c, 0x2810021df066, 0x2823361ef06d, 0x25333747d06c, 0x2833381f0066,
      0x2840021e0066, 0x2f8339228041, 0x3a033a47d063, 0x3a033b47d063, 0x3a033c24f063, 0x3a033d294063,
      0x3a033e294063, 0x3a033f47d063, 0x3a034036e063, 0x3a034124f063, 0x3a034224f063, 0x25400220a06c,
      0x25300220b06c, 0x2850021e1066, 0x2860021e2066, 0x25500220c06c, 0x25300220d06c, 0x2830021e3066,
      0x2870021e4066, 0x25600220e06c, 0x25300220f06c, 0x2880021e5066, 0x2890021e6066, 0x25700221006c,
      0x25300221106c, 0x28a0021e7066, 0x28b0021e8066, 0x25800221206c],
    #[0x25300221306c, 0x28c0021e9066, 0x28d0021ea066, 0x25900221406c, 0x25300221506c, 0x28e0021eb066,
      0x28f0021ec066, 0x25a00221606c, 0x25300221706c, 0x2900021ed066, 0x2910021ee066, 0x25b00221806c,
      0x25300221906c, 0x2923361ef06d, 0x2783361ef06d, 0x2933361ef06d, 0x2943361ef06d, 0x2953361ef06d,
      0x2963361ef06d, 0x2973361ef06d, 0x2f9343229065, 0x3a034424e041, 0x3a034547d05d, 0x3a034647d05d,
      0x3a034725005d, 0x3a034829505d, 0x3a034929505d, 0x3a034a47d05d, 0x3a034b36f05d, 0x3a034c25005d,
      0x3a034d25005d, 0x3a034e251064, 0x2f934f229065, 0x3a035047d064, 0x3a035147d064, 0x3a0352251064,
      0x3a0353296064, 0x3a0354296064, 0x3a035547d064, 0x3a0356370064, 0x3a0357251064, 0x3a0358251064,
      0x2fa35921a06e, 0x3a035a25005d, 0x2fb35b29705d, 0x2fb35c37105d, 0x2fc35d37105d, 0x3a035e252065,
      0x2fc35f47d05d, 0x3a032b253063, 0x3a0360252065, 0x3a012c47d065, 0x3a036147d065, 0x3a0362254065,
      0x3a0363298065, 0x3a0364298065, 0x3a036547d065, 0x3a0366372065, 0x3a0367254065, 0x3a0368254065,
      0x3a012d47d065, 0x3a036947d065, 0x3a036a252065, 0x3a036b299065],
    #[0x3a036c299065, 0x3a036d47d065, 0x3a036e373065, 0x3a036f252065, 0x3a0370252065, 0x3a037147d063,
      0x3a037247d063, 0x3a0373253063, 0x3a037429a063, 0x3a037529a063, 0x3a037647d063, 0x3a0377374063,
      0x3a0378253063, 0x3a0379253063, 0x2f837a22806e, 0x26400225506f, 0x2c637b25606c, 0x2fd37c22a06e,
      0x2fe37d22b06e, 0x2fa37e22c06e, 0x2fa37f22c06e, 0x2fa38022c06e, 0x2c638147d06c, 0x2fa32522c06e,
      0x3a038224e06e, 0x2ff0021f106d, 0x30038322b06e, 0x3a0384254065, 0x3a038526b066, 0x2b9386363070,
      0x3a038526b066, 0x3a038526b066, 0x3a013247d066, 0x3a038747d066, 0x3a0388257066, 0x3a038929b066,
      0x3a038a29b066, 0x3a038b47d066, 0x3a038c375066, 0x3a038d47d05d, 0x3a038e257066, 0x3a038f257066,
      0x3a039026c06d, 0x30139129c071, 0x3a039026c06d, 0x3a039026c06d, 0x3a039226d065, 0x30239329d072,
      0x3a039226d065, 0x3a039226d065, 0x30339429e073, 0x26500225806f, 0x3040021f206d, 0x3050021f306d,
      0x3060021f406d, 0x3070021f506d, 0x3080021f606d, 0x3090021f706d, 0x30a0021f806d, 0x30b0021f906d,
      0x30c0021fa06d, 0x26600226e074, 0x30d00221b06f, 0x298002259065],
    #[0x26700226f075, 0x299395270066, 0x3a039624e06e, 0x29a397270066, 0x3a039824e06e, 0x30e00221c06f,
      0x30f00221d066, 0x3a005122d06d, 0x3a039926b066, 0x29a39a47d066, 0x30e00221e06f, 0x31000221f06f,
      0x3a039b22e06d, 0x3a005e22f06d, 0x3a038629f06f, 0x31100222006f, 0x3a039c2a006f, 0x31239d230066,
      0x29b39e27106d, 0x29c39f27106d, 0x3a03a026c06d, 0x29c3a147d06d, 0x2be3a2365076, 0x301391376071,
      0x3133a323106d, 0x3143a4376071, 0x29d3a5272065, 0x3143a647d071, 0x29e3a7272065, 0x3a03a826d065,
      0x29e3a947d065, 0x2c33aa36a077, 0x302393377072, 0x3153ab377072, 0x3153ac47d072, 0x2b53ad361078,
      0x303394378073, 0x3163ae378073, 0x3163af47d073, 0x29f00225a065, 0x2a000225b065, 0x2a100225c065,
      0x2a200225d065, 0x2a300225e065, 0x2a400225f065, 0x2a5002260065, 0x31700222106f, 0x30e00222206f,
      0x30e00222306f, 0x31800222406f, 0x31900222506f, 0x31a3b037903b, 0x3a03b125006f, 0x2c73b247d06f,
      0x31b3b337903b, 0x3a03b4251066, 0x3a03b524e06e, 0x3a03b6252065, 0x3a03b724e06e, 0x3a03b8261041,
      0x3a03b947d06c, 0x31b3ba47d03b, 0x3a03bb251066, 0x3a03bc24e06e],
    #[0x3a03bd25006f, 0x31c002232063, 0x3a03be25006f, 0x3a03bf47d06c, 0x3a03bf47d06c, 0x3a03bf47d06c,
      0x3a03c047d05d, 0x3a03c1251066, 0x3a03c2251066, 0x3a03c3251066, 0x3a005e25306d, 0x3a03c447d06c,
      0x3a03c447d06c, 0x3a03c447d06c, 0x31d3c537a066, 0x3a038637b06f, 0x2c800226206f, 0x31e3c637c06f,
      0x3a03c747d05d, 0x3a005f25306d, 0x3a03c847d06c, 0x31f03937d066, 0x32003937e066, 0x3213c937c06f,
      0x3a03ca25006f, 0x3a03cb29506f, 0x3a03cc47d05d, 0x3a03cd25306d, 0x32003a37f066, 0x3203ce47d066,
      0x31e3cf37c06f, 0x31e3d047d06f, 0x3213d147d06f, 0x3a03cb29506f, 0x3a03d2251066, 0x3a034447d041,
      0x3220aa380065, 0x3a03d325306d, 0x3233d4381065, 0x3a03d547d041, 0x3a03d647d041, 0x3a03d747d041,
      0x3a03d8251066, 0x3a03d9251066, 0x3233da47d065, 0x3a03db25306d, 0x3a03dc47d041, 0x3a03dd273041,
      0x3a03de47d041, 0x3a03df252065, 0x3a03e0263064, 0x3a03e1251066, 0x3a03e247d041, 0x3243e338206d,
      0x3a03a22a1066, 0x3a03e447d041, 0x3a03e5251066, 0x32504038306d, 0x32604038406d, 0x3a03e62a2066,
      0x3a03e747d041, 0x32604138506d, 0x3263e847d06d, 0x3a03e9252065],
    #[0x3a03ea25306d, 0x3a03eb251066, 0x3a03ec47d071, 0x3a03ed252065, 0x3273ee386065, 0x3a03aa2a306d,
      0x328045387065, 0x329045388065, 0x3a03ef2a406d, 0x329046389065, 0x3293f047d065, 0x3a034e47d064,
      0x3a03f147d064, 0x3a03f247d064, 0x3a03f347d064, 0x3223f447d065, 0x3a03f525306d, 0x3a03f647d072,
      0x3a03f747d064, 0x3a03f8274064, 0x3a03f947d064, 0x3a03fa47d064, 0x3a03ad2a5065, 0x3a03fb47d064,
      0x3a03fc2a6065, 0x3a03fd47d064, 0x3a03fe25006f, 0x3a03ff47d073, 0x32a002233063, 0x32b002234063,
      0x32c002235063, 0x32d4002a706e, 0x3a000223606f, 0x3a000223706f, 0x3a035a47d05d, 0x2c900227506f,
      0x3a000223806e, 0x32e002264065, 0x2ca40138a079, 0x2a60022a8075, 0x32f04e38b06e, 0x3a040247d05d,
      0x3a040347d05d, 0x3a040447d05d, 0x3a000223906f, 0x32f40547d06e, 0x2cb4062a907a, 0x3a040747d03b,
      0x2ca40838a079, 0x3a040947d05d, 0x3a040a27605d, 0x3a040b273041, 0x3a040c47d05d, 0x3a000223a06f,
      0x2cc40d2aa07a, 0x2cc40e47d07a, 0x3a000223b06f, 0x3a040f277063, 0x3a041047d06f, 0x3a041147d06f,
      0x3a041247d06f, 0x3a041347d06f, 0x3304142ab065, 0x2cd00227806f],
    #[0x3a041547d066, 0x3a041647d066, 0x3a041747d06f, 0x3a041847d06f, 0x3a041947d06f, 0x3a041947d06f,
      0x3a041a47d06f, 0x3a041b47d06f, 0x3a041c47d066, 0x3a041d47d06f, 0x3a041e47d06f, 0x3a041f47d06f,
      0x3a042047d06f, 0x3a042047d06f, 0x3a042047d06f, 0x3a042147d06f, 0x3a042247d06f, 0x3a042347d06f,
      0x3a042447d06f, 0x3a042547d06f, 0x3a042647d06f, 0x3a03e0274064, 0x3a03a238c066, 0x33142738d066,
      0x33242838d066, 0x3a042947d06d, 0x3a042a47d06d, 0x33142b38d066, 0x33142c47d066, 0x33242d47d066,
      0x3a042e47d06d, 0x3a032b47d063, 0x3a042f47d063, 0x3a043047d063, 0x3a043147d063, 0x3a043247d063,
      0x3a0433277063, 0x3a043447d063, 0x3a043547d063, 0x3a03aa38e06d, 0x33343638f06d, 0x3a043747d063,
      0x33443838f06d, 0x3a043947d063, 0x3a043a47d065, 0x3a043b47d065, 0x33343c38f06d, 0x33343d47d06d,
      0x33443e47d06d, 0x3a043f47d065, 0x3a044047d065, 0x3a044147d065, 0x3a044247d065, 0x3a044347d065,
      0x3a044447d065, 0x3a044525006f, 0x3a03ad390065, 0x335446391065, 0x3a044747d065, 0x336448391065,
      0x335449391065, 0x33544a47d065, 0x33644b47d065, 0x337002265065],
    #[0x3a000223c06f, 0x3384142ac065, 0x3a000223d06f, 0x3394142ad065, 0x3a000223e06f, 0x33a4142ae065,
      0x3a000223f06f, 0x3a000224006f, 0x3a000224106f, 0x3a000224206f, 0x3a000224306f, 0x3a000224406f,
      0x2ce00227906f, 0x3a000224506f, 0x2a700238a075, 0x32d40039206e, 0x33b44c39307b, 0x33c44d39406e,
      0x2cf0022af06f, 0x33d44e39506e, 0x33e44f39506e, 0x3a000226605d, 0x32f05539606e, 0x33f40139706e,
      0x33b45047d07b, 0x34005639806e, 0x34005739906e, 0x32f45139a06e, 0x2d00022af06f, 0x34145239506e,
      0x34145339506e, 0x3a045447d06f, 0x34200227a065, 0x3a045539b06e, 0x33f45647d06e, 0x2a800239c075,
      0x2a900239c075, 0x34045747d06e, 0x2d10022b007c, 0x34145847d06e, 0x2d20022b107c, 0x32f45939a06e,
      0x3a03c647d06f, 0x2d245a47d07c, 0x34300227b066, 0x34400227c06d, 0x34500227d066, 0x3a045b39d06f,
      0x3a045c47d06f, 0x34645d47d06f, 0x3a045e47d065, 0x34745f2b2066, 0x3a04602b3066, 0x2d346139c07d,
      0x2d346239c07d, 0x3a046347d066, 0x3a046447d066, 0x3a046547d066, 0x3a046647d066, 0x3a046747d066,
      0x3a046847d066, 0x3a046947d066, 0x3a046947d066, 0x3a046a47d066],
    #[0x3a046b47d066, 0x3a046c47d066, 0x3a046d47d066, 0x3a046e47d066, 0x3a046f47d066, 0x3a046f47d066,
      0x3a046f47d066, 0x3a047047d066, 0x3a047147d066, 0x3a047247d066, 0x3a047347d066, 0x3a047447d066,
      0x3a047547d066, 0x3a047647d06d, 0x3a047747d06d, 0x3a047847d06d, 0x3a047947d06d, 0x3a047a47d06d,
      0x3a047b47d06d, 0x3a047c47d06d, 0x3a047c47d06d, 0x3a047d47d06d, 0x3a047e47d06d, 0x3a047f47d06d,
      0x3a048047d06d, 0x3a048147d06d, 0x3a048247d06d, 0x3a048247d06d, 0x3a048247d06d, 0x3a048347d06d,
      0x3a048447d06d, 0x3a048547d06d, 0x3a048647d06d, 0x3a048747d06d, 0x3a048847d06d, 0x3a048947d065,
      0x3a048a47d065, 0x3a048b47d065, 0x3a048c47d065, 0x3a048d47d065, 0x3a048e47d065, 0x3a048e47d065,
      0x3a048f47d065, 0x3a049047d065, 0x3a049147d065, 0x3a049247d065, 0x3a049347d065, 0x3a049447d065,
      0x3a049447d065, 0x3a049447d065, 0x3a049547d065, 0x3a049647d065, 0x3a049747d065, 0x3a049847d065,
      0x3a049947d065, 0x3a049a47d065, 0x34800227e065, 0x2d40022b407c, 0x2d20022b507c, 0x34900227f066,
      0x34a00228006d, 0x34b002281066, 0x34c002282066, 0x34d00228306d],
    #[0x34e002284066, 0x34f002285066, 0x35000228606d, 0x351002287066, 0x2d50022af06f, 0x2d60022af06f,
      0x3520022b606e, 0x35349b39e07e, 0x35449c39f066, 0x35549d3a0066, 0x3540022b7066, 0x3a03593a106e,
      0x3560022b806f, 0x35749e3a206f, 0x3a049f3a306e, 0x3580022b9065, 0x3a04a03a406f, 0x3594a13a506f,
      0x3a04a03a406f, 0x35a0022ba06e, 0x3540022bb066, 0x3540022bc066, 0x35b0373a6066, 0x35c0c73a7066,
      0x35d0022bd07f, 0x35e0022be06f, 0x3560022bf06f, 0x35f0022c0066, 0x3600583a806f, 0x3610022c106f,
      0x3620022c2065, 0x3a04a247d06f, 0x3633273a906f, 0x35a4a347d06e, 0x3640022c3066, 0x3650022c4066,
      0x2ff0022c506d, 0x3660022c6065, 0x3a045547d06e, 0x3a04a447d06e, 0x35b4a547d066, 0x3560022c706f,
      0x3670022bd07f, 0x3670022bd07f, 0x35e4a647d06f, 0x3680022c8066, 0x3604a747d06f, 0x3a04a847d06e,
      0x3624a947d065, 0x3634aa47d06f, 0x3690022c9066, 0x3690022ca066, 0x36a0022cb06d, 0x3a04ab47d07a,
      0x36b0022cc065, 0x2ca00238a075, 0x3560022cd06f, 0x36c0022bd07f, 0x36d0022ce06d, 0x3a000228805d,
      0x3694ac47d066, 0x36a4ad47d06d, 0x3a000228905d, 0x36e0022cf06f],
    #[0x36d4ae47d06d, 0x3a000228a05d, 0x31e0022d006f, 0x3300022d1065, 0x3a000228b05d, 0x36e0022d206f,
      0x36e4af47d06f, 0x36f0022d3066, 0x3700022d406d, 0x3710022d5065, 0x3a04b03aa065, 0x3714b147d065,
      0x36f0022d6066, 0x34745f3ab066, 0x3723363ac06d, 0x3734b23ad06d, 0x3744b33ae066, 0x3a04603af066,
      0x3a04603b0066, 0x3754613b1066, 0x37603c3b206d, 0x3a04b447d066, 0x3770f83b306d, 0x3a04b547d066,
      0x3783293b4066, 0x35c4b647d066, 0x3a04b747d07a, 0x3a04b83b5066, 0x3754b947d066, 0x3764ba47d06d,
      0x3790022d707f, 0x3684bb47d066, 0x3784bc47d066, 0x3a04bd47d07a, 0x3a04bd47d07a, 0x3a04bd47d07a,
      0x2d300239c075, 0x37a0022d707f, 0x3a04be47d07a, 0x3a04be47d07a, 0x3a04be47d07a, 0x3a042747d066,
      0x3a04bf47d07a, 0x3a04c03b6066, 0x3a04c147d066, 0x36f4c247d066, 0x37b32d3b7065, 0x37c0433b8065,
      0x37d4c33b9066, 0x3774c447d06d, 0x37d4c547d066, 0x37c4c647d065, 0x3a043647d06d, 0x3a04c73ba06d,
      0x3a04c847d06d, 0x3704c947d06d, 0x3a04ca47d06e, 0x3a04cb47d06e, 0x37e4cc3bb06d, 0x37e4cd47d06d,
      0x3a044647d065, 0x3a04ce47d065, 0x37f0693bc06f, 0x37f4cf47d06f],
    #[0x3800022d806e, 0x3540022d9066, 0x3810022da065, 0x35a0022db06e, 0x3820f63bd06f, 0x3540022dc066,
      0x3540022dd066, 0x3830022d707f, 0x35e0022de06f, 0x3620022df065, 0x3824d047d06f, 0x3840022e0066,
      0x3850022e1066, 0x3040022e206d, 0x3860022e3065, 0x3790022d707f, 0x3690022e4066, 0x3690022e5066,
      0x36a0022e606d, 0x3870022e7065, 0x36d0022e806d, 0x3380022e9065, 0x36f0022ea066, 0x3700022eb06d,
      0x3710022ec065, 0x36f0022ed066, 0x3880022ee06e, 0x3540022ef066, 0x3890022f0065, 0x35a0022f106e,
      0x3540022f2066, 0x3540022f3066, 0x3620022f4065, 0x30f0022f5066, 0x38a0022f6066, 0x3050022f706d,
      0x3690022f8066, 0x3690022f9066, 0x36a0022fa06d, 0x36d0022fb06d, 0x3390022fc065, 0x36f0022fd066,
      0x3700022fe06d, 0x3710022ff065, 0x36f002300066, 0x354002301066, 0x38b002302065, 0x362002303065,
      0x38c002304066, 0x38d002305066, 0x30600230606d, 0x369002307066, 0x369002308066, 0x36a00230906d,
      0x36d00230a06d, 0x33a00230b065, 0x36f00230c066, 0x37000230d06d, 0x37100230e065, 0x36f00230f066,
      0x354002310066, 0x38e002311065, 0x362002312065, 0x38f002313066],
    #[0x390002314066, 0x30700231506d, 0x369002316066, 0x369002317066, 0x36a00231806d, 0x354002319066,
      0x39100231a065, 0x36200231b065, 0x39200231c066, 0x39300231d066, 0x30800231e06d, 0x36900231f066,
      0x369002320066, 0x36a00232106d, 0x354002322066, 0x394002323065, 0x362002324065, 0x395002325066,
      0x396002326066, 0x30900232706d, 0x369002328066, 0x369002329066, 0x36a00232a06d, 0x35400232b066,
      0x39700232c065, 0x36200232d065, 0x39800232e066, 0x39900232f066, 0x30a00233006d, 0x369002331066,
      0x369002332066, 0x36a00233306d, 0x30b00233406d, 0x36a00233506d, 0x30c00233606d, 0x36a00233706d,
      0x39a00233806f, 0x35600233906f, 0x35600233a06f, 0x3a000228c05d, 0x3a000228d05d, 0x36e00233b06f,
      0x3a000228e05d, 0x3a000228f05d, 0x36e00233c06f, 0x35600233d06f, 0x35600233e06f, 0x35600233f06f,
      0x35600234006f, 0x3a04d147d06e, 0x3a04d247d06e, 0x3a04d347d06e, 0x3a037a47d06e, 0x3a04d447d06e,
      0x3a037e47d06e, 0x3a037f47d06e, 0x3a04d547d06f, 0x3a04a047d06f, 0x3a04a047d06f, 0x3a038047d06e,
      0x39b0023be06f, 0x3a0002341080, 0x39c0023bf06f, 0x3a04d647d06e],
    #[0x3a03b847d06e, 0x3a04d747d06e, 0x3a04d847d06e, 0x3a04d947d06e, 0x3a04da47d06e, 0x3a04da47d06e,
      0x3a04db47d066, 0x3a04dc47d066, 0x3a03bb47d066, 0x3a0002342080, 0x39d0023bf06f, 0x3a04dd47d06f,
      0x3a04de47d080, 0x3a0002343080, 0x3a04df47d065, 0x3a04e047d06f, 0x3a04e147d07c, 0x3a0002344080,
      0x3a04e247d080, 0x3a04e347d06e, 0x3a03c347d066, 0x3a04e447d066, 0x3a039b47d06d, 0x3a04e547d06e,
      0x3a04e647d06e, 0x3a0002345075, 0x3a000234606f, 0x3a000234706f, 0x3a000234806f, 0x3a04e747d07c,
      0x3a04e847d065, 0x3a04e947d07c, 0x3a04ea47d07c, 0x3a04e947d07c, 0x3a04eb47d07c, 0x3a04ec47d07c,
      0x3a04eb47d07c, 0x3a04ec47d07c, 0x3a04ed47d07c, 0x3a04ed47d07c, 0x3a04ee47d07c, 0x3a04ef47d07c,
      0x3a04f047d066, 0x3a04f147d066, 0x3a046047d066, 0x3a04f247d066, 0x3a04f347d066, 0x3a04f447d066,
      0x3a04b847d066, 0x3a04f547d066, 0x3a04f647d06d, 0x3a04f747d06d, 0x3a03db47d06d, 0x3a04f847d066,
      0x3a04f947d066, 0x3a04fa47d06d, 0x3a04fb47d06d, 0x3a04fc47d07c, 0x3a04fd47d06d, 0x3a04fe47d06d,
      0x3a04ff47d07c, 0x3a050047d06d, 0x3a050147d065, 0x3a050247d065],
    #[0x3a03ed47d065, 0x3a050347d07c, 0x3a050447d07c, 0x3a050547d07c, 0x3a0002349075, 0x3a000234a06f,
      0x3a000234b06f, 0x3a000234c06f, 0x3a000234d075, 0x3a000234e06f, 0x3a000234f06f, 0x3a000235006f,
      0x3a0002351075, 0x3a000235206f, 0x3a000235306f, 0x3a000235406f, 0x3a0002355080, 0x3a0002356080,
      0x3a0002357080, 0x3a0002358080, 0x39e0023bf06f, 0x39f0023bf06f, 0x3a00023c006f, 0x3a00023c1075,
      0x3a00023c2075, 0x3a00023c3075, 0x3a00023c4075, 0x3a050647d06f, 0x3a00023c5081, 0x3a00023c606f,
      0x3a00023c706f, 0x3a00023c8066, 0x3a00023c9066, 0x3a00023ca075, 0x3a00023cb06f, 0x3a00023cc06f,
      0x3a00023cd075, 0x3a00023ce06d, 0x3a00023cf06d, 0x3a00023d0065, 0x3a00023d1065, 0x3a00023d206f,
      0x3a050747d06f, 0x3a00023d3075, 0x3a00023d406f, 0x3a00023d506f, 0x3a00023d6075, 0x3a00023d7075,
      0x3a050847d06f, 0x3a00023d806f, 0x3a00023d9066, 0x3a00023da06f, 0x3a00023db06f, 0x3a00023dc075,
      0x3a00023dd075, 0x3a00023de06f, 0x3a00023df06d, 0x3a00023e0065, 0x3a00023e1065, 0x3a00023e2066,
      0x3a00023e3065, 0x3a00023e406f, 0x3a00023e506f, 0x3a00023e606f],
    #[0x3a00023e706f, 0x3a005d47d06f, 0x3a00023e8066, 0x3a00023e906f, 0x3a00023ea065, 0x3a00023eb065,
      0x3a00023ec066, 0x3a00023ed066, 0x3a00023ee06f, 0x3a00023ef06f, 0x3a050947d06f, 0x3a00023f0065,
      0x3a050a47d06f, 0x3a00023f106f, 0x3a00023f2075, 0x3a00023f306f, 0x3a00023f406f, 0x3a00023f506f,
      0x3a00023f6081, 0x3a00023f7066, 0x3a00023f8066, 0x3a00023f9075, 0x3a00023fa06d, 0x3a00023fb06d,
      0x3a00023fc065, 0x3a00023fd065, 0x3a00023fe06f, 0x3a00023ff075, 0x3a0002400075, 0x3a0002401075,
      0x3a0002402066, 0x3a0002403075, 0x3a000240406d, 0x3a0002405065, 0x3a0002406065, 0x3a0002407066,
      0x3a0002408065, 0x3a0002409065, 0x3a000240a065, 0x3a000240b065, 0x3a000240c075, 0x3a000240d081,
      0x3a000240e066, 0x3a000240f066, 0x3a0002410075, 0x3a000241106d, 0x3a000241206d, 0x3a0002413065,
      0x3a0002414065, 0x3a000241506f, 0x3a0002416075, 0x3a0002417075, 0x3a0002418066, 0x3a0002419075,
      0x3a000241a06d, 0x3a000241b065, 0x3a000241c065, 0x3a000241d066, 0x3a000241e075, 0x3a000241f081,
      0x3a0002420066, 0x3a0002421066, 0x3a0002422075, 0x3a000242306d],
    #[0x3a000242406d, 0x3a0002425065, 0x3a0002426065, 0x3a000242706f, 0x3a0002428075, 0x3a0002429075,
      0x3a000242a066, 0x3a000242b075, 0x3a000242c06d, 0x3a000242d065, 0x3a000242e065, 0x3a000242f066,
      0x3a0002430075, 0x3a0002431081, 0x3a0002432066, 0x3a0002433066, 0x3a000243406d, 0x3a000243506d,
      0x3a0002436065, 0x3a0002437065, 0x3a000243806f, 0x3a0002439075, 0x3a000243a075, 0x3a000243b066,
      0x3a000243c06d, 0x3a000243d065, 0x3a000243e065, 0x3a000243f066, 0x3a0002440081, 0x3a0002441066,
      0x3a000244206d, 0x3a0002443065, 0x3a0002444065, 0x3a000244506f, 0x3a0002446075, 0x3a0002447066,
      0x3a000244806d, 0x3a0002449065, 0x3a000244a065, 0x3a000244b066, 0x3a000244c081, 0x3a000244d066,
      0x3a000244e06d, 0x3a000244f065, 0x3a0002450065, 0x3a000245106f, 0x3a0002452075, 0x3a0002453066,
      0x3a000245406d, 0x3a0002455065, 0x3a0002456065, 0x3a0002457066, 0x3a0002458081, 0x3a0002459066,
      0x3a000245a06d, 0x3a000245b065, 0x3a000245c065, 0x3a000245d06f, 0x3a000245e075, 0x3a000245f066,
      0x3a000246006d, 0x3a0002461065, 0x3a0002462065, 0x3a0002463066],
    #[0x3a0002464075, 0x3a0002465075, 0x3a000246606f, 0x3a000246706f, 0x3a000246806f, 0x3a000246906f,
      0x3a000246a06f, 0x3a000246b06f, 0x3a000246c06f, 0x3a000246d06f, 0x3a000246e06f, 0x3a000246f06f,
      0x3a000247006f, 0x3a000247106f, 0x3a000247206f, 0x3a000247306f, 0x3a000247406f, 0x3a0002475075,
      0x3a0002476075, 0x3a0002477075, 0x3a000247806f, 0x3a000247906f, 0x3a000247a06f, 0x3a000247b06f,
      0x3a000247c06f]]⟩

/-- The reading modes. The digits are a set of lexemes, a set of layout tokens, and whether reserved words
    are refused as names. -/
def modeWords : Pages Nat :=
  ⟨#[
    #[0x1000, 0x1002001, 0x1003001, 0x1004002, 0x1005003, 0x1005001, 0x1004001, 0x1002001, 0x1004002,
      0x1004004, 0x1004003, 0x1004005, 0x1006003, 0x1006005, 0x1007003, 0x1002003, 0x1008003, 0x1006003,
      0x1007003, 0x1007005, 0x1006005, 0x1002005, 0x1008005, 0x1004004, 0x1008003, 0x1007005, 0x1002003,
      0x1008005, 0x1002004, 0x1008003, 0x1007001, 0x1008001, 0x1006003, 0x1002001, 0x1004006, 0x1008003,
      0x1002006, 0x1002003, 0x1007003, 0x1006001, 0x1007001, 0x1006001, 0x1008001, 0x1006001, 0x1006001,
      0x1006005, 0x1004001, 0x1006003, 0x1007001, 0x1008001, 0x1004001, 0x1008001, 0x1007005, 0x1002001,
      0x1002003, 0x1002005, 0x1007001, 0x1007003, 0x1008003, 0x9007, 0x1004007, 0x100a001, 0x100b001,
      0x1002001],
    #[0x1003001, 0x9008, 0x100a001, 0x100b001, 0x1006001, 0x1002001, 0x1002001, 0x1003001, 0x1003001,
      0x1007001, 0x1002001, 0x1002001, 0x1008001, 0x1002001, 0x9009, 0xc009, 0xd009, 0x4009, 0xe009,
      0xf009, 0x8009, 0x6009, 0x900a, 0x7009, 0x2009, 0xc00a, 0xe00a, 0xd00a, 0xf00a, 0xf008, 0x1002005,
      0x1007003, 0x1008003, 0x1002003, 0x1006003, 0xc008, 0xe008, 0xd001, 0xe001, 0x9004, 0x100f005,
      0xf004, 0x100e003, 0x100f003, 0x10000, 0xc001, 0x9001, 0xf001, 0x2001, 0xe007, 0xc007, 0xd007,
      0x100f007, 0x100f001, 0x7001, 0x8001, 0x6001, 0x1009001, 0xd00b, 0x100f007, 0x11001, 0x100e001,
      0x100f001, 0x12001],
    #[0xf00c, 0xf002]]⟩

/-- The sets of tokens that are read letter by letter, as masks of their codes. -/
def lexemeSets : List Nat :=
  [0xc3bbffefefe3de8600080ab97, 0xc388000fe803de80000800b87, 0xc30bffefefe2da8400080aa96,
    0xc388000fefe3de8400080ab96, 0xc30bffefefe2da84000802a96, 0xc388000fefe3de84000802b96,
    0xc30bffe008029280000800886, 0xc003ffefe7e35e8400080ab96, 0xc003ffefe7e25e84000802b96,
    0xc080000fe7e35e84000802b96, 0xc080000fe7e35e8400080ab96, 0xc040000000018000000000000,
    0xc000000000000002000800000]

/-- The sets of tokens that layout decides, as masks of their codes. -/
def layoutSets : List Nat :=
  [0x0, 0x7f4000000000010400200000100, 0x84000000000000000000000000, 0xc4000000000000000000000000,
    0x94000000000000000000000000, 0xb4000000000000000000000000, 0x84000000000010000000000000,
    0x84000000000000000000000100, 0x84000000000000400000000000, 0x14000000000000000000000000,
    0x84000000000000000200000000, 0xc4000000000000000200000000, 0x4000000000000400000000000,
    0x4000000000010000000000000, 0x4000000000000000000000100, 0x4000000000000000000000000,
    0x704000000000000000000000000, 0x44000000000000000000000000, 0x34000000000000000000000000]

end ProgramGraph.Syntax.Automaton
