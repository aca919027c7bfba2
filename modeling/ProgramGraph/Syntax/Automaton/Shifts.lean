import ProgramGraph.Syntax.Automaton.Packed

/-! Where the automaton goes when it takes a token. -/

namespace ProgramGraph.Syntax.Automaton

set_option maxRecDepth 20000 in
/-- The rows of shifts: the keys are tokens, the values states, where state zero cancels what the row
    extends. -/
def shiftWords : Pages Nat :=
  ⟨#[
    #[0x24c0169730159720149710131550121bc01116c0101d100e05000c34500b0b60076fd00580e003250001000,
      0x1d402f0b702da9102c04702a1be0299d90289d8027a920241ba023a8202024d01f33201d1d001c05301a001,
      0x3f50613f50603f505f09105e3f505d3f505c3f505715605663004834603f1d50363460350b8033346030002,
      0x65e067269066003, 0x9c1066004, 0x273066004, 0x26c066004, 0x275066004, 0x9c3066004,
      0x65e0679da02c9d70241880239d60201d301f2ba01d1bd01c05201a1d2016003,
      0x1c60299e402600002400002300002000001f00001d25d01c25e01a00001605100c35100b0d300724f00100a,
      0x160652e706409205e00002f0d602d00002c04602a00b, 0x190652eb06400c, 0x1c0652ef06400c,
      0x1f0652f206400c, 0x3506532006400c, 0x3706532406400c, 0x3a06532806400c, 0x3b06532b06400c,
      0x20651e306400002f00002c00002400002300002000001f00001d25b01c25c01a00001600a, 0x3065251064014,
      0x406529a064014, 0x50652c4064014, 0x60652c5064014, 0x70652c9064014, 0x80652ce064014,
      0x90652d0064014, 0xa0652d1064014, 0xb0652d7064014, 0xc0652a0064014, 0xd0652b5064014,
      0xe06527c064014, 0xf0652d9064014, 0x100652dd064014, 0x110652df064014, 0x120652a2064014,
      0x130652e3064014, 0x1406527d064014, 0x1506527f064014, 0x170652a4064014, 0x1806599d064014,
      0x1a065281064014, 0x1b065283064014, 0x1d06599f064014, 0x1e0659a1064014, 0x20065286064014,
      0x210659a3064014, 0x220659a5064014, 0x230659a8064014, 0x3d0651fd064014, 0x3e065256064014,
      0x3f0652a7064014, 0x240652fd064014, 0x250652fe064014, 0x26065302064014, 0x27065307064014,
      0x28065309064014, 0x2906530a064014, 0x2a065310064014, 0x2b0652ad064014, 0x2c0652b7064014,
      0x2d06528a064014, 0x2e065312064014, 0x2f065316064014],
    #[0x30065318064014, 0x310652af064014, 0x3206531c064014, 0x3306528b064014, 0x3406528d064014,
      0x360652b1064014, 0x3806528f064014, 0x39065291064014, 0x3c065294064014, 0x65267064014, 0x26a06404a,
      0x27206404a, 0x27406404a, 0x9bc06404a, 0x9c206404a, 0x6404a,
      0x3f80340c903339803011802d42602a4250291d902642501c42601a42500c23800b9e700910b007427001000,
      0x67f06748e06148e06048e05f09d05e48e05d48e05c48e0570f805663e04839803f23f036398035051,
      0x4f7034a18009052, 0x513034a2f009052, 0x47a034a41009052, 0x49b034a52009052, 0x4b9034a5f009052,
      0x543034a6b009052, 0x57a034a77009052,
      0x3950350c60333950304ec02e12d02d3d402a441029a2c02644101c44201a44100c1f500b1190073d5001000,
      0x67b06747406147406047405f0a105e47405d47405c47405715b05663d04839503f23c03605a,
      0xbf03338e03012602d40102a40002923002640001c40101a40000c1d600b9fb0093ff008112007402001000,
      0x66f0674ed0614ed0604ed05f09a05e4ed05d4ed05c4ed05763a04838e03f22e03638e03505c,
      0x39c0350cf03339c03011f02d50102a50002950001c50101a50000c23d00ba3900951a00812000750200105c,
      0x68706753b06153b06053b05f0af05e53b05d53b05c53b05764004839c03f24303605e, 0xa230094ff00805d,
      0xa3900951a00805d, 0xa4b00948100805d, 0xa5b0094a300805d, 0xa670094c200805d, 0xa7300954a00805d,
      0xa7f00958100805d,
      0x34903a3490399ec03634d03534e03234d03034902f1b202d34c02634b01e34a00d34900b0e6007a32004000,
      0x34b04734b04634b04534b04434b04334b04234b04133c04034a03e35003d34f03c34903b067,
      0x36303b36303a36303936703536803236703036302f1b402d36602636501e36400d36300b0fd007a55004067,
      0x36504736504636504536504436504336504236504133f04036403e36a03d36903c069,
      0x36c03b36c03a36c03937003537103237003036c02f1b502d36f02636e01e36d00d36c00b0fe007a62004067,
      0x36e04736e04636e04536e04436e04336e04236e04134004036d03e37303d37203c06b,
      0x37503b37503a37503937903537a03237903037502f1b602d37802637701e37600d37500b0ff007a6e004067,
      0x37704737704637704537704437704337704237704134104037603e37c03d37b03c06d, 0x18c02d9eb004068,
      0x35203b35203a35203935603535703235603035202f1b102d35502635401e35300d35200b0fb007a1b004067,
      0x35404735404635404535404435404335404235404133d04035303e35903d35803c070,
      0x35a03b35a03a35a03935e03535f03235e03035a02f1b302d35d02635c01e35b00d35a00b0fc007a44004067,
      0x35c04735c04635c04535c04435c04335c04235c04133e04035b03e36103d36003c072,
      0x37d03b37d03a37d03938103538203238103037d02f1b702d38002637f01e37e00d37d00b100007a7a004067,
      0x37f04737f04637f04537f04437f04337f04237f04134204037e03e38403d38303c074,
      0x38503b38503a38503938903538a03238903038502f1b802d38802638701e38600d38500b101007a80004067,
      0x38704738704638704538704438704338704238704134304038603e38c03d38b03c076, 0x1b102da1b004075,
      0x1b402da55004077, 0x1b502da6200406e,
      0xa405e15a0560be02d45802a45702900002645701c45801a45700c0000092610080b900745e00105d,
      0xa605e26502e0c502d46102a46002900002646001c46101a46000c22f00b0c000746c00105b, 0x4f000807b,
      0x61400807b, 0x4f402e07c, 0x52900807b],
    #[0x49100807b, 0x61502e07c, 0x62000807b, 0x52b02e07c, 0x59800807b, 0x49802e07c, 0x62500807b,
      0x62102e07c, 0x60000807b, 0x59902e07c, 0x56100807b, 0x62602e07c, 0x27a00807b, 0x60102e07c,
      0x56302e07c, 0x27b02e07c,
      0x24403639e0350d203339e03075202e13402d46f02a53e02953e01c53f01a53e00c39300b12500747000105a,
      0x68b06757506157506057505f0ad05e57505d57505c57505764104839e03f091, 0x75a02e092, 0x77702e092,
      0x77c02e092, 0x7e902e092, 0x7eb02e092, 0x79702e092, 0x79902e092,
      0xa805e12602d47602a47502947501c47601a47500c4eb00811200747700107b, 0x44202a00002622f00b44300105b,
      0x47200809a, 0x940b00805f, 0x40c00809d, 0x40d00809d, 0x40e00809d, 0x41700809a, 0x41802e09b,
      0x53500809a, 0x50b00809d, 0x50c00809d, 0x50d00809d, 0x50e00809d, 0x52c00809a, 0x47302e09b,
      0x4bd00809a, 0x52300809d, 0x52400809d, 0x52500809d, 0x52600809d, 0x52d02e09b, 0x48a00809d,
      0x48b00809d, 0x48c00809d, 0x48d00809d, 0x57300809a, 0x53602e09b, 0x4ad00809d, 0x4ae00809d,
      0x4b100809d, 0x4b200809d, 0x4be02e09b, 0x4da00809a, 0x4cb00809d, 0x4cc00809d, 0x4cd00809d,
      0x4ce00809d, 0x57402e09b],
    #[0x55300809d, 0x55400809d, 0x55500809d, 0x55600809d, 0x4db02e09b, 0x58a00809d, 0x58b00809d,
      0x58c00809d, 0x58d00809d,
      0x3920354050340c303339203010a02d46302a4620291d902646201c46301a46200c38d00b109007464001000,
      0x67306750f06150f06050f05f09b05e50f05d50f05c50f05763c04839203f2370360ca, 0x40a0340cb, 0x5050340cb,
      0x50a0340cb, 0x51d0340cb, 0x5220340cb, 0x4840340cb, 0x4890340cb, 0x4a60340cb, 0x4ac0340cb,
      0x4c50340cb, 0x4ca0340cb, 0x54d0340cb, 0x5520340cb, 0x5840340cb, 0x5890340cb,
      0x26d02e53f02a00002616e01739b00b540001092, 0x27002e0db, 0x46902e0db, 0x46b02e0db, 0x43702e0db,
      0x43902e0db, 0x53102e0db, 0x53302e0db, 0x4af02e0db, 0x4b302e0db, 0x3ec02e0db, 0x3ee02e0db,
      0x4d102e0db, 0x4d302e0db, 0x55902e0db, 0x55b02e0db, 0x59002e0db, 0x59202e0db, 0x59c02e0db,
      0x59e02e0db,
      0x25c02a25b02900002800002700001500001400001300001200001100001000000e25b00c000005000003050,
      0x39a03f24103639a0350cc03339a0300c802d42202a42102942101c42201a42100c39400b0c100743a001000,
      0x6830674b40614b40604b405f09705e4b405d4b405c4b40570f805663f0480f0,
      0x9405e00005611102d41102a3c0029a150263c001c3c101a3c000c38f00b1100074120010ef, 0x2e092,
      0x3445902a9e402634700b45a0010cb,
      0x9f05e43c02a495029a3e02649501c49601a49500c39600b00000811700743d00109d,
      0x9905e00005613a02d45302a45202945201c45301a45200c13300723a0054540010f1,
      0x15a05649602a00002623d00b1200074970010f5, 0x809d, 0x15b05600002e00001724000b1270070db,
      0xf805624200b12e0070000050f6, 0x3c102a00002639100b1d80053c20010f2, 0x1db0050fb,
      0x5639700b1170071f70050f7, 0x2e0000172350050db, 0x2e1960170db, 0x1990170ff],
    #[0x340cb, 0x2e0db, 0xa0a0080000050fd, 0xa0c008103, 0x268aa017101, 0x8b9017105, 0x600171c400b105,
      0xb105e57102a57002957001c57101a06601757000c572001105, 0x8e5017105, 0x90f017105, 0x7e0171cd00b105,
      0x84017108, 0x50f6, 0x50fb, 0x260e3007101, 0x26101, 0x50fe, 0x5663904839900b00000811e00709a, 0x50fd,
      0x5664204800002e39d00b12c00709b, 0x5664304800003400002639f00b000009139007052,
      0xa305e45c02a45b02945b01c45c01a45b00c45d001113, 0x63e048115, 0x63a048112,
      0x9c05e41602a41502941501c41601a41500c40f001111, 0x63d048114, 0x466001119,
      0x9e05e42b02a42a02942a01c42b01a42a00c42c00110d, 0x56702a56602956601c56701a56600c568001116,
      0x56a02a56902956901c56a01a56900c56b001119, 0x56d02a56c02956c01c56d01a56c00c56e00111c,
      0xb005e0000480000361ec02b4f602a4f50294f501c4f601a4f500c4ed001112,
      0xae05e0000480000361ec02b54202a54102954101c54201a54100c53b001113, 0x1c112, 0x1c114, 0x1c115,
      0x1a005e0000480000360cb02d61102a61002961001c61101a61000c3a200b89f0080c400761f00110f, 0x8d7008125,
      0x9505e0000485f90363f702a3f60293f601c3f701a3f600c3f500110e, 0x5f903600002b120,
      0xa705e0000485f903651202a51102951101c51201a51100c50f001110,
      0xa905e0000485f903647902a47802947801c47901a47800c474001114,
      0xaa05e0000485f903649a02a49902949901c49a01a49900c48e001115,
      0xa205e0000485f90364b802a4b70294b701c4b801a4b700c4b400110d, 0x5f903600002b121,
      0xb205e0000485f903657902a57802957801c57901a57800c575001111, 0x36127, 0x36129, 0x3612c, 0x3612e,
      0x3612b, 0x2b121, 0x3612a, 0x2b120,
      0xab05e0d502d53a02a53902953901c53a01a53900c34500b0d0007560001130,
      0xb305e0ce02d59502a59402959401c59501a59400c3a000b0c7007597001130,
      0x15405e0d402d5fd02a5fc0295fc01c5fd01a5fc00c3a100b0cd0075ff001130,
      0x18a05e0c202d60c02a60b02960b01c60c01a60b00c0bd007613001130, 0x8125,
      0x1a405e0d102d61902a61802961801c61901a61800c3a300b0ca007624001130,
      0x1a305e61702a61602961601c61701a61600c622001130, 0x17505e60802a60702960701c60801a60700c609001130,
      0x9305e26302a26202926201c26301a26200c264001130, 0xa505e4f202a4f10294f101c4f201a4f100c564001130],
    #[0x19005e60e02a60d02960d01c60e01a60d00c60f001130, 0x27700113f, 0x510001140,
      0x9605e42402a42302942301c42401a42300c4fb001130, 0x17405e60302a60202960201c60301a60200c604001130,
      0x43b001144, 0xac05e57702a57602957601c57701a57600c565001130,
      0x9805e49302a49202949201c49301a49200c4d5001130, 0xa005e53802a53702953701c53801a53700c52e001130,
      0x55d001149, 0x53d02a53c02953c01c53d01a53c00c562001149, 0x593001147,
      0x4e502a4e40294e401c4e501a4e400c4e8001147, 0x4e702a4e60294e601c4e701a4e600c4e9001148,
      0xb405e5a002a59f02959f01c5a001a59f00c5a1001130, 0x360000350000300b502d00002600000b0000070f4,
      0x3600003500003000002d1d700d00000b00000710e, 0x2d150, 0x46302a464001152,
      0x34a03e35003d34f03c34903b00003600001e067, 0x36403e36a03d36903c00003600001e069,
      0x36d03e37303d37203c00003600001e06b, 0x37603e37c03d37b03c00003600001e06d,
      0x35303e35903d35803c00003600001e070, 0x35b03e36103d36003c00003600001e072,
      0x37e03e38403d38303c00003600001e074, 0x38603e38c03d38b03c00003600001e076,
      0x75106075105f70e05d70e05c5d103375103199a0305a902d99902606c01723e01699900b5a80076ac001000,
      0x67306775106115c, 0x7001715d, 0x18c02d9eb004159, 0x1b202da32004159, 0x1b102da1b004159,
      0x1b902da81004159, 0x1b602da6e004159, 0x1b702da7a004159, 0x1b802da80004159, 0x1b402da55004159,
      0x1b502da62004159,
      0xbb0530bb0520bb0510bb0500bb04f0bb04e0bb04d0bb04c0bb04b0bb04a0bb0490ba02b0e50170e4009000,
      0xbb0550bb054168, 0xd7009169, 0x32154, 0x32155, 0x32156, 0x32157, 0x32158, 0x32159, 0x3215a,
      0x3215b, 0x7d70617d70607d705f77605d77605c5d50337d70319c50305b202d9c40269c400b7ba0085b10076eb001000,
      0x687067173,
      0x7e80617e80607e805f78505d78505c5d90337e80319c90307bc02e5bb02d9c80269c800b5ba0076ef001000,
      0x68b067175, 0x7c7008174, 0x7c9008174, 0x7ca02e176, 0x7d0008174, 0x7d102e176, 0x7d3008174,
      0x7d4008174, 0x837008174, 0x83902e176, 0x840008174],
    #[0x841008174, 0x84202e176, 0x848008174, 0x84902e176, 0x84b008174, 0x84c008174, 0x84d008174,
      0x84f02e176, 0x856008174, 0x857008174, 0x85802e176, 0x85e008174, 0x85f02e176, 0x861008174,
      0x862008174, 0x863008174, 0x86402e176, 0x86b008174, 0x86c008174, 0x86d02e176, 0x873008174,
      0x87402e176, 0x876008174, 0x877008174,
      0x8c20618c20608c205f7bd0348c20319cc0260000170000169cc00b6ad00115d, 0x7cc034199, 0x7ce034199,
      0x7d2034199, 0x83a034199, 0x844034199, 0x846034199, 0x84a034199, 0x850034199, 0x85a034199,
      0x85c034199, 0x860034199, 0x865034199, 0x86f034199, 0x871034199, 0x875034199, 0x9169, 0x3c16b,
      0x3c16c, 0x3c16d, 0x3c16e, 0x3c16f, 0x3c170, 0x3c171, 0x3c172, 0x1700001615d,
      0x6830677f90617f90607f905f79605d79605c0000345dd0337f90319cd0305c402d5c30076f2001199, 0x8174,
      0x2e176, 0x34199, 0x75e06175e06075e05f75e0316ad0011b2, 0x75f06175f06075f05f75f0311b7,
      0x7db0617db0607db05f7db0317170011b4, 0x7dc0617dc0607dc05f7dc0311b9,
      0x7ee0617ee0607ee05f7ee0317200011b5, 0x7ef0617ef0607ef05f7ef0311bb,
      0x7fc0617fc0607fc05f7fc0317240011b3, 0x7fd0617fd0607fd05f7fd0311bd, 0x3d1aa, 0x3d1ab],
    #[0x3d1ac, 0x3d1ad, 0x3d1ae, 0x3d1af, 0x3d1b0, 0x3d1b1, 0x3e00000d1bf, 0x3e00000d1c0, 0x3e00000d1c1,
      0x3e00000d1c2, 0x3e00000d1c3, 0x3e00000d1c4, 0x3e00000d1c5, 0x3e00000d1c6,
      0x34b04734b04634b04534b04434b04334b04234b04133c0409ec03634b01e000,
      0x36504736504636504536504436504336504236504133f04036501e1cf,
      0x35c04735c04635c04535c04435c04335c04235c04133e04035c01e1cf,
      0x37f04737f04637f04537f04437f04337f04237f04134204037f01e1cf,
      0x36e04736e04636e04536e04436e04336e04236e04134004036e01e1cf,
      0x37704737704637704537704437704337704237704134104037701e1cf,
      0x38704738704638704538704438704338704238704134304038701e1cf,
      0x35404735404635404535404435404335404235404133d04035401e1cf, 0x350000301c7, 0x350000301c8,
      0x350000301c9, 0x350000301ca, 0x350000301cb, 0x350000301cc, 0x350000301cd, 0x350000301ce,
      0x21603821503733001da9801c1e501724801621400a14e009000,
      0x1fb0381fa0372be01d9f101c2450161f900a13f0093fa008000, 0x10c0094080081e0, 0x4f90081e0,
      0x1130095080081e0, 0x5150081e0, 0x11a0095200081e0, 0x47c0081e0, 0x1210094870081e0, 0x49d0081e0,
      0x1280094a90081e0, 0x4bb0081e0, 0x12f0094c80081e0, 0x5450081e0, 0x1350095500081e0, 0x57c0081e0,
      0x13b0095870081e0, 0x20f03820e03732e01da9601c24701620d00a146009000, 0x91e4,
      0x22b03822a03726b02e17101724b01622900a170009000, 0x46802e1760091f2, 0x43602e1780091f2,
      0x53002e17a0091f2, 0x4ab02e17c0091f2, 0x3eb02e17e0091f2, 0x4d002e1800091f2, 0x55802e1820091f2,
      0x58f02e1840091f2, 0x59b02e1860091f2, 0x9780393480261da01733a00b2b4007890001000, 0x19d0171fc,
      0x1f60171fc, 0x2030171fc, 0x20b0171fc],
    #[0x2120171fc, 0x2190171fc, 0x2200171fc, 0x2270171fc, 0x1a90171fc, 0x1ae0171fc,
      0x9ab03939002633b00b98c0082b9007834001000, 0x91f0, 0x3bf06a6d00696d00686d00596d00580d9033000,
      0x3c306a209, 0x45f06a209, 0x46506a209, 0x46d06a209, 0x47106a209, 0x8f806a209, 0x8f906a209,
      0x43e06a209, 0x43f06a209, 0x44006a209, 0x44406a209, 0x44506a209, 0x44806a209, 0x4d406a209,
      0x4d906a209, 0x55c06a209, 0x55e06a209, 0x1e00381df0371de0161dd00a16d0091e2005000,
      0x20703820603789801724601620500a1bf009000, 0x5e0171c700921c,
      0x22403822303724a01622200a11a009520008000, 0x6401721d, 0x670171f300a1f200921c, 0x6a0171f400a220,
      0x9070171cb00921c, 0x7c01721d, 0x8201721d, 0x85017220, 0x87017221, 0x171fc, 0x8207,
      0x18b00900000521b, 0x21d03821c03724901621b00a147009000, 0x18e009229, 0x1e1009229, 0x521b,
      0x2e1990170000091f2, 0x17101722e, 0x19b01722e, 0x1a100900000821e, 0x171a500922e,
      0xf703274602e0f60170da009a35004000, 0x77402e0dc009233, 0x7e602e0de009233, 0x79502e0e0009233,
      0x5501700000921c, 0x56017237, 0x81f064000009229, 0x1eb019000017237, 0x231017237, 0x68017237,
      0x20101923a, 0x20a01923a, 0x21101923a, 0x21801923a],
    #[0x21f01923a, 0x22601923a, 0x22d01923a, 0x73017237, 0x74017237, 0x86017237,
      0x1b202d34c0260e6007a32004000, 0x1b402d3660260fd007a55004000, 0x1b502d36f0260fe007a62004000,
      0x1b602d3780260ff007a6e004000, 0x1b102d3550260fb007a1b004000, 0x1b302d35d0260fc007a44004000,
      0x1b702d380026100007a7a004000, 0x1b802d388026101007a80004000, 0x9229, 0x1d00001c208, 0x17237,
      0x9231, 0x922a, 0x1722e, 0x21603821503724801621400a000, 0x1d402f9da02c9d70249ed01c000,
      0x6d60696d60686d60596d6058000, 0x1d00001c0000081f1, 0xa9102ca92024a9501c256,
      0x3fd03433001da9801c157009000, 0x4fd03415c00925a, 0x51803415f00925a, 0x47f03416200925a,
      0x4a003416400925a, 0x4c003416600925a, 0x54803416800925a, 0x57f03416a00925a,
      0xf30320bc02b0f2017a1f004000, 0x6901723e016a0e00a5a6009000, 0xfa03223402b0f9017a47004000,
      0x8a505b73c03482002b7ae017000, 0x90e05b8da03487802b265, 0xea0320e902b0e80179f6004000,
      0x9e10241890232bb01d000, 0xa930241bb02333301d000, 0xa000221c30219ff019000, 0xa890221cc021a88019000,
      0x16258, 0x16250, 0x16255, 0x9dd0068100046ad001000, 0x98300b824007733001000,
      0x2be01d9f101c1e8016000, 0x32e01da9601c233016000, 0x33001da9801c239016000, 0x2b262, 0x2b264,
      0xe702d0580170eb007000, 0x2b267, 0x2e000009233, 0x6c01723e0165a7009000, 0x76017276,
      0x8b605b7430347ae017000, 0xa2800a5ab0097c2008000, 0x7c302ea3a00a5ac009000, 0x5af0097cf00827c,
      0x91305b8e103427b, 0x5b400983b00827c],
    #[0x83c02e5b500927d, 0x5b800984700827c, 0x5bd00985100827c, 0x85202e5be00927d, 0x5c100985d00827c,
      0x5c600986600827c, 0x86702e5c700927d, 0x5ca00987200827c, 0x48017277, 0x49017277, 0x4a017277,
      0x4b017277, 0x4c017277, 0x4d017277, 0x4e017277, 0x4f017277, 0x67706788e001000, 0x9ff0191ef018000,
      0xa8801924e018000, 0x1e00381df037000, 0xa26d, 0x207038206037000, 0x224038223037000,
      0x5e402ba1c004000, 0xa26e, 0x21d03821c037000, 0x22b03822a037000, 0xa26c, 0x5e602ba33004000,
      0x5e802ba45004000, 0x5ea02ba56004000, 0x99b03599b030000, 0x99c03599c030000, 0x9c60359c6030000,
      0x9c70359c7030000, 0x9ca0359ca030000, 0x9cb0359cb030000, 0x9ce0359ce030000, 0x9cf0359cf030000,
      0x9ef00a7a6009000, 0x823007733001000, 0x7b605a0e2033000, 0x7b705a2aa, 0x7c50345d3009000,
      0x83e0345d7009000, 0x8540345db009000, 0x8690345df009000, 0xe702d644007000, 0x2c80665cc01b000,
      0x2d40662b1, 0xa1d00a835009000, 0x23202b0f4017000, 0x3010662b1, 0x30d0662b1, 0x26606408a002000,
      0x13f0093fa008000, 0x1c001e2f5009000, 0x3fd034157009000, 0x26706408b002000, 0x9860082b8,
      0x9870082b8, 0x8260652c1064000, 0x8ab0171c1009000, 0x1c201e2b9],
    #[0x194009a01008000, 0x5b0170eb007000, 0x405034158009000, 0x10c009408008000, 0x10d009409008000,
      0x26b02e170009000, 0x7440347ae017000, 0x19701e2b9, 0x198009a0a008000, 0x10e00940b008000,
      0x10f00940c008000, 0x26e02e173009000, 0x74b0342c7, 0x19a01e2b9, 0x75202e0db009000, 0x6b0171f2009000,
      0x5e50325cd017000, 0x7c40345d2009000, 0x6e0172d0, 0x5ad0097c9008000, 0x7ca02e5ae009000,
      0x7cd0345d4009000, 0x5b00097d3008000, 0x8790652fa064000, 0x27106408c002000, 0x4f90082b8,
      0x4fd03415c009000, 0x27206408d002000, 0x9b20082b8, 0x9b30082b8, 0x8de0171c9009000,
      0x50503415d009000, 0x113009508008000, 0x114009509008000, 0x46802e176009000, 0x8e20342c7,
      0x11500950b008000, 0x11600950c008000, 0x46a02e177009000, 0x8e60342c7, 0x77702e0dd009000,
      0x83d0345d6009000, 0x5b6009841008000, 0x84202e5b7009000, 0x8450345d8009000, 0x5b900984b008000,
      0x9b906408e002000, 0x5150082b8, 0x51803415f009000, 0x9bc06408f002000, 0x9be0082b8, 0x9bf0082b8,
      0x51d034160009000, 0x11a009520008000, 0x11b009521008000, 0x43602e178009000, 0x11c009523008000,
      0x11d009524008000, 0x43802e179009000, 0x7e902e0df009000, 0x8530345da009000, 0x5bf009857008000,
      0x85802e5c0009000, 0x85b0345dc009000],
    #[0x5c2009861008000, 0x47c0082b8, 0x47f034162009000, 0x484034163009000, 0x121009487008000,
      0x122009488008000, 0x53002e17a009000, 0x12300948a008000, 0x12400948b008000, 0x53202e17b009000,
      0x79702e0e1009000, 0x8680345de009000, 0x5c800986c008000, 0x86d02e5c9009000, 0x8700345e0009000,
      0x5cb009876008000, 0x49d0082b8, 0x4a0034164009000, 0x4a6034165009000, 0x1280094a9008000,
      0x1290094aa008000, 0x4ab02e17c009000, 0x12a0094ad008000, 0x12b0094ae008000, 0x4b002e17d009000,
      0x4bb0082b8, 0x4c0034166009000, 0x4c5034167009000, 0x12f0094c8008000, 0x1300094c9008000,
      0x3eb02e17e009000, 0x1310094cb008000, 0x1320094cc008000, 0x3ed02e17f009000, 0x5450082b8,
      0x548034168009000, 0x54d034169009000, 0x135009550008000, 0x136009551008000, 0x4d002e180009000,
      0x137009553008000, 0x138009554008000, 0x4d202e181009000, 0x57c0082b8, 0x57f03416a009000,
      0x58403416b009000, 0x13b009587008000, 0x13c009588008000, 0x55802e182009000, 0x13d00958a008000,
      0x13e00958b008000, 0x55a02e183009000, 0x58f02e184009000, 0x59102e185009000, 0x59b02e186009000,
      0x59d02e187009000, 0x790172c2, 0x1a701e2b9, 0x1a801e2b9, 0x880172d0, 0x890172d0, 0x1ac01e2b9,
      0x1ad01e2b9, 0x1ce01e2b9],
    #[0x1cf01e2b9, 0xed02505a017000, 0xee02505d017000, 0xef025062017000, 0xf0025065017000,
      0x7bb0317bb001000, 0x71005d71005c000, 0x7c605d7c605c000, 0x7cb05d7cb05c000, 0x838031838001000,
      0x77b05d77b05c000, 0x83f05d83f05c000, 0x84305d84305c000, 0x84e03184e001000, 0x78805d78805c000,
      0x85505d85505c000, 0x85905d85905c000, 0x7fa0317fa001000, 0x79805d79805c000, 0x86a05d86a05c000,
      0x86e05d86e05c000, 0x105025078017000, 0x10602507b017000, 0x107025080017000, 0x108025083017000,
      0xe702d000, 0x9ff019000, 0xa00022000, 0xa88019000, 0xa89022000, 0x65e067000, 0x67b067000,
      0x67f067000, 0x683067000, 0x66f067000, 0x673067000, 0x10302d000, 0x687067000, 0x1ec02b000,
      0x1ed02b000, 0x10202d000, 0x10402d000, 0x68b067000, 0xd8009000, 0xec009000, 0x1df037000,
      0x20e037000, 0x206037000, 0x223037000, 0xa1c004000, 0x215037000, 0x21c037000, 0x22a037000,
      0x1fa037000, 0xa33004000, 0xa45004000, 0xa56004000, 0x9ee004000, 0x142009000, 0x5aa007000,
      0x5e5032000, 0x143009000, 0x144009000, 0x145009000],
    #[0x299009000, 0x149009000, 0x14a009000, 0x14b009000, 0x14c009000, 0x14d009000, 0x150009000,
      0x151009000, 0x152009000, 0x153009000, 0x733001000, 0x16f009000, 0x5b3007000, 0x5e7032000,
      0x5bc007000, 0x5e9032000, 0x5c5007000, 0x5eb032000, 0x7a6009000, 0x818004000, 0x18d009000,
      0x9f5009000, 0x191009000, 0x7b0009000, 0x192009000, 0x193009000, 0x1e1009000, 0x9ef00a000,
      0x717001000, 0xa0e00a000, 0x6ad001000, 0x13f009000, 0x2bd009000, 0x1e2005000, 0x18f009000,
      0x1e401e000, 0x1e602b000, 0x646009000, 0x140009000, 0x2bf009000, 0x195009000, 0x647009000,
      0xa4c00a000, 0x835009000, 0x146009000, 0x2f7009000, 0x648009000, 0x23202b000, 0xf5017000,
      0x836009000, 0x148009000, 0x2f9009000, 0x649009000, 0xa1d00a000, 0xa2800a000, 0x14e009000,
      0x14f009000, 0x1a2009000, 0xa3a00a000, 0x1a6009000, 0x1c8009000, 0x2f8009000, 0x298009000,
      0x644007000],
    #[0x54017000, 0x812001000, 0x813001000, 0x814001000, 0x7a3001000, 0x1dc00f000, 0x7a7003000,
      0x700003000, 0x634008000, 0x3fb008000, 0x81c001000, 0x1c001e000, 0x57017000, 0x7a9001000,
      0x63502e000, 0x3fc02e000, 0x3fd034000, 0x3fe034000, 0x1e7017000, 0x268001000, 0x5f801e000,
      0x9e1024000, 0x7af001000, 0x8a7001000, 0x2c001d000, 0x403008000, 0x1c201e000, 0x59017000,
      0x8af001000, 0x7b1001000, 0x5c017000, 0x40402e000, 0x406034000, 0x407034000, 0x408008000,
      0x745034000, 0x19701e000, 0x5e017000, 0x5f017000, 0x61017000, 0x992008000, 0x63017000, 0x74c034000,
      0x74d034000, 0x997008000, 0x998008000, 0x19a01e000, 0x64017000, 0x754034000, 0x19e017000,
      0x830001000, 0x6d017000, 0x6f017000, 0x71017000, 0x1f800f000, 0x8d5008000, 0x4fa008000, 0x767001000,
      0x9ae02e000, 0x4fc02e000, 0x4fd034000, 0x4fe034000, 0x1fe017000, 0x467001000],
    #[0x6e7001000, 0x9b1001000, 0x503008000, 0x76e001000, 0x50402e000, 0x506034000, 0x507034000,
      0x508008000, 0x8e3034000, 0x8e7034000, 0x8e8034000, 0x8ea034000, 0x8ec001000, 0x20400f000,
      0x9ba008000, 0x516008000, 0x7e0001000, 0x9bb02e000, 0x51702e000, 0x518034000, 0x519034000,
      0x209017000, 0x42d001000, 0x782001000, 0x51b008000, 0x7e3001000, 0x51c02e000, 0x51e034000,
      0x51f034000, 0x520008000, 0x8f6001000, 0x20c00f000, 0x7f4008000, 0x47d008000, 0x78c001000,
      0x7f502e000, 0x47e02e000, 0x47f034000, 0x480034000, 0x210017000, 0x52f001000, 0x791001000,
      0x482008000, 0x792001000, 0x48302e000, 0x485034000, 0x486034000, 0x487008000, 0x8fd001000,
      0x21300f000, 0x61b008000, 0x49e008000, 0x61c02e000, 0x49f02e000, 0x4a0034000, 0x4a1034000,
      0x217017000, 0x4a2001000, 0x79b001000, 0x4a4008000, 0x4a502e000, 0x4a7034000, 0x4a8034000,
      0x4a9008000],
    #[0x21a00f000, 0x4bc008000, 0x4bf02e000, 0x4c0034000, 0x4c1034000, 0x21e017000, 0x3e2001000,
      0x4c3008000, 0x4c402e000, 0x4c6034000, 0x4c7034000, 0x4c8008000, 0x22100f000, 0x546008000,
      0x54702e000, 0x548034000, 0x549034000, 0x225017000, 0x4cf001000, 0x54b008000, 0x54c02e000,
      0x54e034000, 0x54f034000, 0x550008000, 0x22800f000, 0x57d008000, 0x57e02e000, 0x57f034000,
      0x580034000, 0x22c017000, 0x557001000, 0x582008000, 0x58302e000, 0x585034000, 0x586034000,
      0x587008000, 0x58e001000, 0x59a001000, 0x72017000, 0x75017000, 0x77017000, 0x7a017000, 0x1a701e000,
      0x7c017000, 0x7d017000, 0x7f017000, 0x81017000, 0x1a801e000, 0x82017000, 0x1aa017000, 0x1ac01e000,
      0x1ad01e000, 0x1af017000, 0x80c001000, 0x884001000, 0x885001000, 0x1ce01e000, 0xa93024000,
      0x32f01d000, 0x1cf01e000, 0x33101d000, 0x0]]⟩

end ProgramGraph.Syntax.Automaton
