import ProgramGraph.Syntax.Automaton.Packed

/-! Where the automaton goes when a construct is complete. -/

namespace ProgramGraph.Syntax.Automaton

set_option maxRecDepth 20000 in
/-- The rows of successors: the keys are constructs, the values states, where state zero cancels what the
    row extends. -/
def gotoWords : Pages Nat :=
  ⟨#[
    #[0x88607e88607d88607c9dc07b64d07a88607988607888607688607288607188606e04006d04006c9db06b000,
      0x88609888609788609688609504009004008d04008a04008904008804008504008288608188608088607f001,
      0x3f50bf3f50be64d0bd64d0bc3a40bb6ce0ba64d0b825f0b66320b36320b26310b16cf09e04009d040099002,
      0x3f50db3f50d93f50d83f50d73f50d63f50cd2600cb2600ca9740c96450c79740c69740c564d0c364d0c2003,
      0x6cf0ff0400ef3f50ec3a50e63f50e564d0e43f50e03f50de3f50dd3f50dc004,
      0x90008090007f90007e90007d90007c90007990007890007690007290007190006e04206d04206c00006b005,
      0x4209d04209990009890009790009690009504209004208d04208a042089042088042085042082900081006,
      0x6f30ff0420ef1ea09f6f309e007, 0x25309f008, 0x29d09f008, 0x2cd09f008, 0x2cf09f008, 0x2d609f008,
      0x2dc09f008, 0x2de09f008, 0x2e009f008, 0x2e209f008, 0x2a309f008, 0x2b609f008, 0x27e09f008,
      0x2e509f008, 0x2e809f008, 0x2e909f008, 0x2a509f008, 0x2ec09f008, 0x28009f008, 0x28209f008,
      0x2ee09f008, 0x2a609f008,
      0x450ef9a009f04509d04509904509004508d04508a04508904508804508504508204506d04506c008, 0x2f109f008,
      0x28509f008, 0x28809f008, 0x2f309f008, 0x9a209f01e, 0x9a409f01e, 0x2f409f008, 0x28909f008,
      0x9a609f01e, 0x9a709f01e, 0x9a909f01e,
      0x440ef30609f04409d04409904409004408d04408a04408904408804408504408204406d04406c008, 0x30809f02a,
      0x30f09f02a, 0x31509f02a, 0x31709f02a, 0x31909f02a, 0x31b09f02a, 0x2b009f02a, 0x2b809f02a,
      0x28c09f02a, 0x31e09f02a, 0x32109f02a, 0x32209f02a, 0x2b209f02a, 0x32509f02a, 0x28e09f02a,
      0x29009f02a, 0x32709f02a, 0x2b309f02a, 0x32a09f02a, 0x29309f02a, 0x29609f02a, 0x32c09f02a],
    #[0x32d09f02a, 0x29709f02a, 0x20009f02a, 0x25809f02a, 0x2aa09f02a,
      0x410ef04109d04109904109004108d04108a04108904108804108504108204106d04106c00006b005,
      0x430ef00009f04309d04309904309004308d04308a04308904308804308504308204306d04306c008,
      0x6650ba2780b600009e00009d00009900009000008d00008a0000890000880000850000822e706d00006c046,
      0xff0000ef7a20d47a20d37a20d27a20d17a20d07b20cf2790cb2790ca048, 0x2eb06d049, 0x2ef06d049,
      0x2f206d049,
      0x90009590008190008090007f90007e90007d90007c90007990007890007690007290007190006e32006d049,
      0x90009890009790009604d, 0x32406d04e, 0x32806d04e, 0x32b06d04e, 0xff0000ef6ce0ba25f0b61e306d048,
      0x25106d052, 0x29a06d052, 0x2c406d052, 0x2c506d052, 0x2c906d052, 0x2ce06d052, 0x2d006d052,
      0x2d106d052, 0x2d706d052, 0x2a006d052, 0x2b506d052, 0x27c06d052, 0x2d906d052, 0x2dd06d052,
      0x2df06d052, 0x2a206d052, 0x2e306d052, 0x27d06d052, 0x27f06d052, 0x2a406d052,
      0x91a09591a08191a08091a07f91a07e91a07d91a07c91a07991a07891a07691a07291a07191a06e99d06d052,
      0x91a09891a09791a096067, 0x28106d052, 0x28406d052, 0x99f06d068, 0x9a106d068, 0x28706d052,
      0x9a306d068, 0x9a506d068, 0x9a806d068,
      0xd40000d30000d20000d10000d00000cf2600cb2600ca6ce0ba25f0b61fd06d04e, 0x25606d071, 0x2a706d071,
      0x2fd06d071, 0x2fe06d071, 0x30206d071, 0x30706d071, 0x30906d071, 0x30a06d071, 0x31006d071,
      0x2ad06d071, 0x2b706d071, 0x28a06d071, 0x31206d071, 0x31606d071, 0x31806d071],
    #[0x2af06d071, 0x31c06d071, 0x28b06d071, 0x28d06d071, 0x2b106d071, 0x28f06d071, 0x29206d071,
      0x29506d071,
      0x97f09597f08197f08097f07f97f07e97f07d97f07c97f07997f07897f07697f07297f07197f06e00006d052,
      0x97f09897f09797f096089,
      0x6660c36660c24740bf4740be6660bd6660bc3620bb64b0ba6660b84b60b68ce09b8ce093a3b07b66607a000,
      0x4740d94740d84740d74740d67df0d47df0d37df0d27df0d17df0d07410cf4740cd4740cb4740ca8ce0c908b,
      0x4740ec3b50e64740e56660e4a2e0e14740e04740de4740dd4740dc4740db08c,
      0x9600009500008100008000007f00007e00007d00007c00007900007800007600007200007100006e089,
      0x9800c99800c86370c79800c69800c56d70ba63b0b19800a000009800009708e,
      0x9810c99810c89810c69810c59810a008f, 0x9930c99930c89930c69930c59930a008f,
      0x6e00bd6e00bc3a80bb6600ba6e00b84ee0b69aa0b39aa0b28890b19df0af88809b888093a1207b6e007a000,
      0x4ed0dc4ed0db4ed0d94ed0d84ed0d74ed0d64ed0cd4ef0cb4ef0ca88a0c96e00c36e00c24ed0bf4ed0be092,
      0x4ed0ec3c40e64ed0e56e00e49e00e14ed0e04ed0de4ed0dd093,
      0xd40000d30000d20000d10000d00000cf5280cb5280ca6610ba5270b69b70b39b70b28cf0b19e50af08d, 0x9e60e1095,
      0xa140e19010c96710baa130af89509b894093094, 0xa2b0e191b0c96750ba094, 0xa170e168d0baa160af095,
      0xa3d0e192d0c96790baa2a0af90609b905093094, 0xa5d0e19450c96810ba094, 0x68e0ba095, 0xa130af098,
      0xa400e168f0baa2d0af095, 0xa5e0e16910ba095, 0xa2a0af098, 0xa160af09c, 0xa3c0af098, 0xa4e0af098,
      0xa2d0af09c, 0xa3f0af09c, 0xa500af09c,
      0x50f0ca6960c36960c250f0bf50f0be6960bd6960bc3a90bb6ab0ba6960b84ea0b67aa09aa2907b69607a000,
      0x50f0dc50f0db50f0d950f0d850f0d750f0d67a20d47a20d37a20d27a20d17a20d08150cf50f0cd50f0cb0a7,
      0x50f0ec3c70e650f0e56960e450f0e050f0de50f0dd0a8,
      0x4b40bf4b40be6bc0bd6bc0bc3740bb6940ba6bc0b848f0b66320b36320b297c0b17a50a0a5c07b6bc07a000,
      0x4b40dd4b40dc4b40db4b40d94b40d84b40d74b40d64b40cd4900cb4900ca7a50c97a50c76bc0c36bc0c20aa,
      0x4b40ec7a50e93bb0e64b40e56bc0e44b40e04b40de0ab, 0x7ff0e97ff0c97ff0c77ff0a00ac, 0x9a0a9,
      0x6b30c248e0bf48e0be6b30bd6b30bc36b0bb64e0ba6b30b846e0b68ee09b88f0948ee093a4d07b6b307a000,
      0x48e0de48e0dd48e0dc48e0db6ff0da48e0d948e0d848e0d748e0d648e0cd48e0cb48e0ca8ee0c96b30c30af,
      0x48e0ec3b80e648e0e56b30e49e80e148e0e00b0, 0xa190e17270da6570ba9020940b1,
      0xa300e17280da6580ba91c0940b1, 0xa420e17290da6590ba92e0940b1, 0xa530e172a0da65a0ba93d0940b1,
      0xa600e172b0da65b0ba9460940b1, 0xa6c0e172c0da65c0ba94f0940b1, 0xa780e172d0da65d0ba9580940b1,
      0x6c50c36c50c25750bf5750be6c50bd6c50bc3be0bb6b10ba6c50b856f0b600009b000093a7407b6c507a08c,
      0x5750e05750de5750dd5750dc5750db5750d95750d85750d75750d67b90cf5750cd5750cb5750ca0000c90b9,
      0x5750ec4510e65750e56c50e40ba,
      0x3f50cb3f50ca0000c90000c70000c60000c53440bb6950ba4100b60000b30000b20000b100009800009708e,
      0x7630d47630d37630d27630d17630d073b0cf0bc, 0x7410cf0bb, 0x7b20cf0ae, 0x7b30cf0bd],
    #[0x7b40cf0ae, 0x8bb0cf0ae, 0x8be0cf0ae, 0x8c10cf0ae, 0x8c40cf0ae, 0x76f0cf0bd, 0x7700cf0bd,
      0x53b0cb53b0ca6a10c36a10c253b0bf53b0be6a10bd6a10bc3aa0bb69f0ba6a10b852a0b6a6807b6a107a000,
      0x53b0dd53b0dc53b0db53b0d953b0d853b0d753b0d678b0d478b0d378b0d278b0d178b0d07720cf53b0cd0c8,
      0x53b0ec3f00e653b0e56a10e453b0e053b0de0c9, 0x7d50cf0ca, 0x7e40cf0bb, 0x7e50cf0bb, 0x7930cf0ca,
      0x7940cf0ca, 0x79c0cf0bb, 0x79d0cf0bb, 0x79e0cf0bb, 0x9670cf0ae, 0x9680cf0ae, 0x96a0cf0ae,
      0x96b0cf0ae, 0x4ed0cb4ed0ca6630ba5340b60000b30000b20000b10000af89b08f098,
      0xe18a20d50000c96640ba8a309b8a20948a209300008f0d7,
      0x9210d50000d40000d30000d20000d10000d00000cf7060ba92209b9210949210930ca,
      0x90b0d56720ba90c09b90b09490b0930d8, 0x9210d56760ba92209b9210949210930d8,
      0x9300d567a0ba93109b9300949300930d8, 0x93f0d567e0ba94009b93f09493f0930d8,
      0x9480d56820ba94909b9480949480930d8, 0x9510d56860ba95209b9510949510930d8,
      0x95a0d568a0ba95b09b95a09495a0930d8, 0x6750ba00008f0d7, 0xd40000d30000d20000d10000d00000cf68e0ba08d,
      0xa4f0e193c0c967d0ba91f09b91e0930e1, 0x9940d57490ba99509b9940949940930d9, 0x9e00e188a0c96600ba0e1,
      0x9e60e16610ba0e2, 0xa140e19010c96710ba89509b8940930e1, 0xa690e194e0c96850ba0e1, 0xa510e16900ba0e2,
      0xa3d0e192d0c96790ba90609b9050930e1, 0x88809b8880930e7, 0xa6a0e16920ba0e2, 0x89509b8940930e8,
      0xa750e19570c96890ba0e1, 0xa170e168d0ba0e2, 0x90609b9050930ee, 0x88809b8880930ea, 0xa400e168f0ba0e2,
      0xa5d0e19450c96810ba0e3, 0x88809b8880930f3, 0xa760e16930ba0e2, 0x88809b8880930e3, 0xa5e0e16910ba0e2,
      0xd59880c973e0ba98809b0000949880930d9,
      0xd40000d30000d20000d10000d00000cf9b40c976d0ba9b409b9b40930bb,
      0xe94b40cb4b40ca9c00c90000c77830ba4d60b60000b30000b20000b10000a09c009b9c00930ac,
      0xd57c10c46dc0ba7c10b900009b0000940000930d8, 0xe10000c97da0c46ea0ba7da0b900009b0000930e2,
      0xe10000da0000c97ed0c46ee0ba7ed0b900009b0000940000930b1,
      0x98e0da0000d40000d30000d20000d10000d00000cf7b50ba98e0940ae, 0xda7340ba00009488d08f9e308e0fe,
      0x9f408e0ff],
    #[0x74e0c474e0b90fb, 0x7550c47550b90fb, 0x7c00c46de0ba7c00b90fb, 0x7c80c46df0ba7c80b90fb,
      0x7750c47750b90fc, 0x7790c47790b90fc, 0x7d90c46ec0ba7d90b90fc, 0x7de0c46ed0ba7de0b90fc,
      0x7840c47840b90fd, 0x7860c47860b90fd, 0x7ec0c46f00ba7ec0b90fd, 0x7f10c46f10ba7f10b90fd, 0xa8308e0ff,
      0xa8408e0ff, 0x6d10ba8110770bc, 0xc96a00ba7f30a000009b0000930fa, 0x6aa0ba88b0a00bc,
      0x6d50ba97b0a00bc, 0xc97110ba9ad0a000009b0000930f8, 0xc97180ba9b80a000009b0000930f9,
      0x6d30ba9760a00bc, 0x9960cc70c0ba0000a0114, 0x8a40cc6d90ba116, 0x98b08f00008e0ff,
      0x7620ba0000a09b508f113, 0x90d0cc6f40ba116, 0x9230cc6f50ba116, 0x9320cc6f60ba116, 0x9410cc6f70ba116,
      0x94a0cc6f80ba116, 0x9530cc6f90ba116, 0x95c0cc6fa0ba116, 0x9600cc6fb0ba116, 0x9620cc6fc0ba116,
      0x6d40ba9770a00bc, 0x7050ba9fe0a000008f118, 0x70a0baa090a0124, 0x72f0baa870a0124, 0x7300baa8c0a0124,
      0x6fe0ba00008f118, 0x72e0ba128, 0x6af0ba0000a0110, 0x6d80ba0bc, 0x7070ba0000a0114, 0x70d0ba12c,
      0x7040ba0bc, 0x74a0ba12c, 0x7530ba12c, 0x75b0ba12c, 0x7810ba0000a0113, 0x7900ba12c, 0x7400ba128,
      0x70b0ba128, 0x5a50cb5a50ca70f0ba128, 0x79a0ba128, 0x7310ba128, 0x7320ba136, 0x6d20ba0bc,
      0x7a00ba128, 0x7a10ba128, 0x7a40ba0bc, 0x64f0ba0bc, 0x4f30cb4f30ca3ef0bb7370ba132, 0x7020ba0bc],
    #[0x7380ba0bc, 0x7390ba12a, 0x6500ba0bc, 0x73a0ba0bc, 0x6510ba0bc, 0x6520ba0bc, 0x7ac0ba128,
      0x6530ba0bc, 0x6540ba0bc, 0x73f0ba0bc, 0x6da0ba0bc, 0xc46db0ba0000b90fd, 0x7420ba128, 0x6550ba0bc,
      0xc47080ba0000b90fb, 0x6560ba0bc, 0x7470ba132, 0x7480ba132, 0x7b80ba128, 0x7580ba128, 0x7590ba128,
      0x7610ba128, 0x4940cb4940ca3f30bb7650ba12c, 0x6e20ba14f, 0x76b0ba132, 0x6e30ba14f, 0x6e40ba14f,
      0x6e50ba14f, 0x6e60ba14f, 0x6e80ba14f, 0x6e90ba14f, 0x6980ba128, 0x6990ba128, 0x69a0ba128,
      0x69b0ba128, 0x69c0ba128, 0x69d0ba128, 0x69e0ba128, 0xc46680ba0000b90fc, 0x6690ba167, 0x66a0ba167,
      0x66b0ba167, 0x66c0ba167, 0x66d0ba167, 0x66e0ba167, 0x6b50ba14c, 0x6b60ba14c, 0x6b70ba14c,
      0x6b80ba14c, 0x6b90ba14c, 0x6ba0ba14c, 0x6bb0ba14c, 0x6be0ba12a, 0x6bf0ba12a, 0x6c00ba12a,
      0x6c10ba12a, 0x6c20ba12a, 0x6c30ba12a, 0x6c40ba12a, 0x6a30ba132, 0x6a40ba132, 0x6a50ba132,
      0x6a60ba132, 0x6a70ba132],
    #[0x6a80ba132, 0x6a90ba132, 0x6c70ba12c, 0x6c80ba12c, 0x6c90ba12c, 0x6ca0ba12c, 0x6cb0ba12c,
      0x6cc0ba12c, 0x6cd0ba12c, 0x6e10ba14f, 0x76a0ba132, 0x7710ba12a, 0x7730ba132, 0x7140ba167,
      0x7780ba132, 0x7800ba12c, 0x6970ba128, 0x4b50cb4b50ca3f40bb77f0ba12a, 0x71d0ba14c, 0x6b20ba12a,
      0x6670ba167, 0x5a20cb5a20ca7370ba132, 0x7f70ba128, 0x6b40ba14c, 0x5a30cb5a30ca7650ba12c,
      0x6bd0ba12a, 0x5a40cb5a40ca77f0ba12a, 0x6a20ba132, 0x6c60ba12c, 0x8000ba128, 0x8020ba128,
      0x8040ba128, 0x8060ba128, 0x8070ba128, 0x8080ba128, 0x8090ba128, 0x80a0ba128, 0x80b0ba128,
      0x80d0ba128, 0xc30000c20000bd0000bc6290bb0000ba0000b861e0b69aa0b39aa0b28890b19df0af00007b00007a128,
      0xe461f0cb61f0ca1a8, 0xa130af1a9, 0x6130cb6130ca9e20c76270bb6120b66320b36320b288c0b10000af1a9,
      0x9f30c789a0b11ab, 0x9fd0c78a90b11ab, 0xa080c78b80b11ab, 0xa860c79650b11ab, 0xa8b0c79660b11ab,
      0xa8e0c796d0b11ab, 0xa8f0c796e0b11ab, 0xa940c796f0b11ab, 0xa970c79700b11ab,
      0x5600cb5600ca60a0bb55f0b661a0b361a0b261d0b10000af1a9, 0x5970cb5970ca0000c762a0bb5960b66360b11ab,
      0x5ff0cb5ff0ca62f0bb5fe0b67f20b37f20b27f60b11b5, 0x9af0b10000af1a9, 0xc76360b11ab,
      0x6240cb6240ca62e0bb6230b69b70b39b70b29bd0b11b5,
      0xe40000c30000c20000bd0000bc3ac0bb0000ba0000b800007b00007a0bc,
      0xe44290bb4ea0b60000b30000b20000b10000af1a8,
      0xe40000c30000c20000bd0000bc3e10bb0000ba0000b800007b00007a12a,
      0xe40000c30000c20000bd0000bc4140bb0000ba0000b800007b00007a14f,
      0xe40000c30000c20000bd0000bc4d80bb0000ba0000b800007b00007a12c,
      0xe40000c30000c20000bd0000bc3d70bb0000ba0000b800007b00007a14c],
    #[0xe40000c30000c20000bd0000bc4470bb0000ba0000b800007b00007a132,
      0xe40000c30000c20000bd0000bc3cb0bb0000ba0000b800007b00007a167, 0x6220cb6220ca6270bb1bc,
      0x6090cb6090ca6290bb1bc, 0x3af0bb1bb, 0x41b0bb1be, 0x4300bb1bc, 0x3ce0bb1c2, 0x3da0bb1c0,
      0x3e50bb1bd, 0x44b0bb1c1, 0x4de0bb1bf, 0x2640cb2640ca60a0bb1bc, 0x3ab0bb1bb, 0x5100cb5100ca1c3,
      0x60f0cb60f0ca1c3, 0x3ad0bb1bb, 0x3ae0bb1bb, 0x3b00bb1bb, 0x3b10bb1bb, 0x3b20bb1bb, 0x3b30bb1bb,
      0x3b40bb1bb, 0x4190bb1be, 0x41a0bb1be, 0x41c0bb1be, 0x41d0bb1be, 0x41e0bb1be, 0x41f0bb1be,
      0x4200bb1be, 0x42e0bb1bc, 0x42f0bb1bc, 0x4310bb1bc, 0x4320bb1bc, 0x4330bb1bc, 0x4340bb1bc,
      0x4350bb1bc, 0x3cc0bb1c2, 0x3cd0bb1c2, 0x3cf0bb1c2, 0x3d00bb1c2, 0x3d10bb1c2, 0x3d20bb1c2,
      0x3d30bb1c2, 0x3d80bb1c0, 0x3d90bb1c0, 0x3db0bb1c0, 0x3dc0bb1c0, 0x3dd0bb1c0, 0x3de0bb1c0,
      0x3df0bb1c0, 0x3e30bb1bd, 0x3e40bb1bd, 0x3e60bb1bd, 0x3e70bb1bd, 0x3e80bb1bd, 0x3e90bb1bd,
      0x3ea0bb1bd, 0x4490bb1c1, 0x44a0bb1c1, 0x44c0bb1c1, 0x44d0bb1c1, 0x44e0bb1c1, 0x44f0bb1c1],
    #[0x4500bb1c1, 0x4dc0bb1bf, 0x4dd0bb1bf, 0x4df0bb1bf, 0x4e00bb1bf, 0x4e10bb1bf, 0x4e20bb1bf,
      0x4e30bb1bf, 0x4130bb1be, 0x43b0cb43b0ca6280bb1bc, 0x6040cb6040ca1c4, 0x4280bb1bc,
      0x5930cb5930ca62d0bb1bc, 0x4d50cb4d50ca62b0bb1bc, 0x3ca0bb1c2, 0x55d0cb55d0ca62c0bb1bc, 0x3d60bb1c0,
      0x5620cb5620ca1c4, 0x3e00bb1bd, 0x4460bb1c1, 0x4e80cb4e80ca62e0bb1bc, 0x4d70bb1bf,
      0x4e90cb4e90ca62f0bb1bc, 0x5a10cb5a10ca62a0bb1bc, 0x62f0bb20e, 0x6290bb210, 0x62e0bb20d,
      0x7510e5a100e37510ad7510ac7510ab82a0aa7510a87510a77510a67510a582a0a47510a382f0a274f0a1000,
      0x6dd0e621c, 0xa110e321d,
      0x7160e67d70e57d70ad7d70ac7d70ab8e90aa7d70a87d70a77d70a67d70a58e90a47d70a382c0a27d60a1000,
      0x71f0e67e80e57e80ad7e80ac7e80ab8f40aa7e80a87e80a77e80a67e80a58f40a47e80a382d0a27e70a1000,
      0x82e0a221f, 0x8eb0a221f, 0x8f50a2220, 0x87b0a221f, 0x87c0a2220, 0x87d0a221f, 0x87e0a221f,
      0x87f0a2220, 0x8800a221f, 0x8810a221f, 0x8820a2220, 0x8830a221f, 0xe37500a221d,
      0x7230e67f90e57f90ad7f90ac7f90ab8fc0aa7f90a87f90a77f90a67f90a58fc0a47f90a38ca0a27f80a1000, 0xe321d,
      0x6dd0e68c20e58c20ad8c20ac7be0ab8c30a98c20a88c20a78c20a68c20a58c20a374f0a1000, 0x8320ab99e0a9230,
      0x8010ab9150a9230, 0x8030ab9280a9230, 0x8050ab9370a9230,
      0x75e0e575e0ad75e0ac75e0ab0000a975e0a875e0a775e0a675e0a575e0a3230,
      0x75f0e575f0ad75f0ac75f0ab75f0a875f0a775f0a675f0a575f0a3235,
      0x7160e67db0e57db0ad7db0ac7db0ab7db0a87db0a77db0a67db0a57db0a37d60a1000,
      0x7dc0e57dc0ad7dc0ac7dc0ab7dc0a87dc0a77dc0a67dc0a57dc0a3237,
      0x71f0e67ee0e57ee0ad7ee0ac7ee0ab7ee0a87ee0a77ee0a67ee0a57ee0a37e70a1000,
      0x7ef0e57ef0ad7ef0ac7ef0ab7ef0a87ef0a77ef0a67ef0a57ef0a3239,
      0x7230e67fc0e57fc0ad7fc0ac7fc0ab7fc0a87fc0a77fc0a67fc0a57fc0a37f80a1000,
      0x7fd0e57fd0ad7fd0ac7fd0ab7fd0a87fd0a77fd0a67fd0a57fd0a323b,
      0x9790ee9790ed9790ce97a0b797a0b69790b59790b48920b28910b09ea0ae9e9092000, 0xa0d09223d, 0xa1a09223d,
      0xa3109223d],
    #[0xa4309223d, 0xa5409223d, 0xa6109223d, 0xa6d09223d, 0xa7909223d, 0xa8d09223d, 0xa9009223d,
      0x9ac0ee9ac0ed9ac0ce8d20b78d20b69ac0b59ac0b48d10b28d00b0a020ae000, 0x98f0b00000ae00009223d,
      0x9b60b00000ae248, 0x5e21053f90de34b0c134b0c03f909c000, 0x5ec10547b0de3650c13650c047b09c000,
      0x5f210549c0de36e0c136e0c049c09c000, 0x5f41054ba0de3770c13770c04ba09c000,
      0x5fa1054f80de3540c13540c04f809c000, 0x5ee1055140de35c0c135c0c051409c000,
      0x5f01055440de37f0c137f0c054409c000, 0x5f610557b0de3870c13870c057b09c000,
      0x6d010d65f10c6d00ea65f0e865f0e7000, 0x66210c6620e86620e7253, 0x67010c6700e86700e7253,
      0x67410c6740e86740e7253, 0x67810c6780e86780e7253, 0x67c10c67c0e867c0e7253, 0x68010c6800e86800e7253,
      0x68410c6840e86840e7253, 0x68810c6880e86880e7253, 0x68c10c68c0e868c0e7253,
      0x1e90f92c308c1e908b29b084000, 0x2540f92cb08c25408b29e084000, 0x1f10f92cc08c1f108b29f084000,
      0x2db08c2a108425e, 0x1ff0f92fc08c1ff08b2a8084000, 0x2590f930408c25908b2ab084000,
      0x2020f930508c20208b2ac084000, 0x31408c2ae084262, 0x7350ff73509e2bc0992bc090000, 0x2f60992f6090265,
      0x8100f19de0a19de07088706f000, 0x79f0a198507580f074984073000, 0x2520f52c608429c083000,
      0x26f0f52d2084269, 0x2550f52d3084269, 0x2e108426a, 0x2570f52ff0842a9083000, 0x2760f530b08426d,
      0x25a0f530c08426d, 0x31a08426e, 0x5e310534b0c134b0c0000, 0x5ed1053650c13650c0000,
      0x5ef10535c0c135c0c0000, 0x5f110537f0c137f0c0000, 0x5f310536e0c136e0c0000, 0x5f51053770c13770c0000,
      0x5f71053870c13870c0000, 0x5fb1053540c13540c0000, 0x8d41097120e2a360df000, 0x8ef10971a0e29f90df000,
      0xa210df27a, 0xa370df27a, 0xa490df27a, 0xa590df27a, 0xa650df27a, 0xa710df27a],
    #[0xa7d0df27a, 0x8961097010e29f20df000, 0x9f80df279, 0xa340df282, 0x1098b20fe282, 0xa1e0df282,
      0x9100fea1e0df285, 0x1099240fe284, 0xa460df282, 0x9330fea460df285, 0xa570df282, 0x9420fea570df285,
      0xa630df282, 0x94b0fea630df285, 0xa6f0df282, 0x9540fea6f0df285, 0xa7b0df282, 0x95d0fea7b0df285,
      0xa200df279, 0xa480df279, 0xa580df279, 0xa640df279, 0xa700df279, 0xa7c0df279,
      0x89e10771a0e29fa0df000, 0x7031087030e37030e2000, 0x7091087090e37090e2000, 0x7131087130e37130e2000,
      0x7151087150e37150e2000, 0x71c10871c0e371c0e2000, 0x71e10871e0e371e0e2000, 0x909107a220df299,
      0x920107a380df299, 0x92f107a4a0df299, 0x93e107a5a0df299, 0x947107a660df299, 0x950107a720df299,
      0x959107a7e0df299, 0x75982073268, 0x9750732a7, 0x8330a18cd074a06073000, 0xa070732a9,
      0x2540f925408b000, 0x2590f925908b000, 0x8426a, 0x8426e, 0x3a610b3a60e6000, 0x3a710b3a70e6000,
      0x3f90de3f909c000, 0x3b610b3b60e6000, 0x3b710b3b70e6000, 0x3b910b3b90e6000, 0x3ba10b3ba0e6000,
      0x3bc10b3bc0e6000, 0x3bd10b3bd0e6000, 0x3c510b3c50e6000, 0x3c610b3c60e6000, 0x3c810b3c80e6000,
      0x3c910b3c90e6000, 0x47b0de47b09c000, 0x49c0de49c09c000, 0x4ba0de4ba09c000, 0x3f110b3f10e6000,
      0x3f210b3f20e6000],
    #[0x4f80de4f809c000, 0x5140de51409c000, 0x5440de54409c000, 0x45510b4550e6000, 0x45610b4560e6000,
      0x57b0de57b09c000, 0x6d610d6d60ea000, 0x7350ff73509e000, 0x7bf0f8a0f0e3000, 0x9f709c89d09a000,
      0x8210a18a6074000, 0x7b610e8b50e8000, 0x7b710e2cc, 0x8310f8a100e3000, 0xa8509c96409a000,
      0x97e09a97d091000, 0x98a09a989091000, 0x8280f7990087000, 0x82b0f72d2, 0x8db0a19b0074000,
      0x87a0f72d2, 0x9d409a9d0091000, 0x9d509a9d1091000, 0x88e0e6000, 0x7ab09a000, 0x2ca084000,
      0x2cb08c000, 0x2d8084000, 0x2da08c000, 0x2db08c000, 0x2e4084000, 0x2e608c000, 0x2ea084000,
      0x2ed084000, 0x2f0084000, 0x303084000, 0x30408c000, 0x311084000, 0x31308c000, 0x31408c000,
      0x31d084000, 0x31f08c000, 0x323084000, 0x326084000, 0x329084000, 0x7e109a000, 0x7e209a000,
      0x76809a000, 0x76909a000, 0x78d09a000, 0x78e09a000, 0x7aa09a000, 0x606104000, 0x633104000,
      0x638104000, 0x605104000, 0x8160f4000, 0x7660f4000, 0x7a80f4000, 0x6ae100000, 0x6b0100000,
      0x81a0f3000, 0x81b0f4000, 0x8b4106000],
    #[0x8290f4000, 0x719100000, 0x721100000, 0x725100000, 0x912106000, 0x926106000, 0x935106000,
      0x944106000, 0x94d106000, 0x956106000, 0x95f106000, 0x961106000, 0x963106000, 0x8990f6000,
      0x8fe0f4000, 0x9240fe000, 0x8bf0fa000, 0x8c50fa000, 0x8f00f4000, 0x8fa0f4000, 0x71b100000,
      0x722100000, 0x726100000, 0x9080f6000, 0x9690fa000, 0x96c0fa000, 0x736100000, 0x73d100000,
      0x8ba0fd000, 0x75610a000, 0x757101000, 0x75c10a000, 0x75d10a000, 0x760101000, 0x78f104000,
      0x76c0f4000, 0x77a10a000, 0x77d10a000, 0x77e10a000, 0x78710a000, 0x78910a000, 0x78a10a000,
      0x9140fd000, 0x9270fd000, 0x9360fd000, 0x8170f2000, 0x9fc0eb000, 0x7ad0f4000, 0x8c9102000,
      0x7d8101000, 0x7dd101000, 0x7ea101000, 0x7f0101000, 0x7fb101000, 0x7fe101000, 0xa240eb000,
      0x918102000, 0x92b102000, 0x93a102000, 0x8180f1000, 0x8190f3000, 0x81d0fc000, 0x81e0fc000,
      0x8220f2000],
    #[0x8250f3000, 0x8270fc000, 0xa040eb000, 0x8c70f8000, 0x8c80f8000, 0x8cc0f8000, 0x8310f8000,
      0x8d30f2000, 0xa250eb000, 0x9160f8000, 0x9170f8000, 0x9190f8000, 0x9290f8000, 0x92a0f8000,
      0x92c0f8000, 0x9380f8000, 0x9390f8000, 0x93b0f8000, 0x8930f0000, 0x9f00a1000, 0x896109000,
      0x897104000, 0x904104000, 0x89c0fb000, 0x89e107000, 0x8a0103000, 0x8a10f0000, 0x8a8109000,
      0x8d9104000, 0x2c2086000, 0x8ac0f6000, 0x8ad0fb000, 0x8ae0fb000, 0xa0309c000, 0x8b0107000,
      0x8b1103000, 0x8b20fe000, 0x8b30fe000, 0xa050eb000, 0x2c7086000, 0x8df0fb000, 0x8bc0fe000,
      0x8bd106000, 0xa0b0eb000, 0x2d5086000, 0x8c00fd000, 0x8c60fa000, 0x8ed0f8000, 0x8f70f8000,
      0x8cb102000, 0x8d4109000, 0x8d6104000, 0x8d8103000, 0x8dc0f2000, 0x8dd109000, 0x8f1104000,
      0x8e0103000, 0x300086000, 0x30e086000, 0x8ef109000, 0x8f3109000, 0x8f20f4000, 0x8fb0f4000,
      0x8ff0f4000],
    #[0x9030f0000, 0x909107000, 0x90a104000, 0x2fb086000, 0x9100fe000, 0x9110fe000, 0xa260eb000,
      0xa270eb000, 0x91d0f0000, 0x920107000, 0x9250fe000, 0x92f107000, 0x9330fe000, 0x9340fe000,
      0x93e107000, 0x9420fe000, 0x9430fe000, 0x947107000, 0x94b0fe000, 0x94c0fe000, 0x950107000,
      0x9540fe000, 0x9550fe000, 0x959107000, 0x95d0fe000, 0x95e0fe000, 0xa8a09c000, 0x764104000,
      0x98d091000, 0x991091000, 0x9d2091000, 0x9d3091000, 0x0]]⟩

end ProgramGraph.Syntax.Automaton
