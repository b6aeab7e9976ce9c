import Bookmarklet.Script.Grammar.Reduction

/-!
# Parse actions

What the parser may do in a state on a token. Most places have exactly one action; where the grammar needs more
than one token to decide, a place lists several and the parser follows them side by side.
-/

namespace Bookmarklet.Script.Grammar

/-- One move of the parser. -/
inductive Action where
  /-- Push the token and go to the state. -/
  | shift (target : Nat)
  /-- The same inside a repetition, where only a reduction is followed. -/
  | shiftAgain (target : Nat)
  /-- Push the token, a comment, and stay. -/
  | shiftExtra
  | reduce (reduction : Reduction)
  | accept
  /-- Skip the token or return to an earlier state. -/
  | recover
  deriving Inhabited

/-- Entry `i` of a list cut into pages of `width` entries. -/
def page (width : Nat) (pages : List (List α)) (default : α) (i : Nat) : α :=
  (pages.getD (i / width) []).getD (i % width) default

/-- The reduction of a number. -/
def reductionAt (i : Nat) : Reduction := page 16 reductions default i

/-- The places with several moves, and those that need no number. -/
def choices : List (List (List Action)) :=
  let reduce i := Action.reduce (reductionAt i)
  [
    [[.recover],
     [.shiftExtra],
     [reduce 1, .shiftAgain 438],
     [reduce 1, .shiftAgain 296],
     [reduce 1, .shiftAgain 2],
     [reduce 1, .shiftAgain 992],
     [reduce 1, .shiftAgain 1311],
     [reduce 1, .shiftAgain 1031],
     [reduce 1, .shiftAgain 333],
     [reduce 1, .shiftAgain 1032],
     [reduce 1, .shiftAgain 1312],
     [reduce 1, .shiftAgain 1313]],
    [[reduce 1, .shiftAgain 1214],
     [reduce 1, .shiftAgain 91],
     [reduce 1, .shiftAgain 334],
     [reduce 1, .shiftAgain 173],
     [reduce 1, .shiftAgain 1314],
     [reduce 1, .shiftAgain 23],
     [reduce 1, .shiftAgain 1315],
     [reduce 1, .shiftAgain 1215],
     [reduce 1, .shiftAgain 1216],
     [reduce 1, .shiftAgain 1316],
     [reduce 1, .shiftAgain 106],
     [reduce 1, .shiftAgain 120]],
    [[reduce 1, .shiftAgain 55],
     [reduce 1, .shiftAgain 74],
     [reduce 1, .shiftAgain 1084],
     [reduce 1, .shiftAgain 1140],
     [reduce 1, .shiftAgain 1141],
     [reduce 1, .shiftAgain 1085],
     [reduce 1, .shiftAgain 313],
     [reduce 1, .shiftAgain 1142],
     [reduce 1, .shiftAgain 121],
     [reduce 1, .shiftAgain 174],
     [reduce 1, .shiftAgain 1500],
     [reduce 1, .shiftAgain 175]],
    [[reduce 1, .shiftAgain 1054],
     [reduce 1, .shiftAgain 609],
     [reduce 1, .shiftAgain 1501],
     [reduce 1, .shiftAgain 610],
     [reduce 1, .shiftAgain 1217],
     [reduce 1, .shiftAgain 439],
     [reduce 32, reduce 33],
     [reduce 34, reduce 35],
     [reduce 35, .shift 24],
     [reduce 34, .shift 980],
     [reduce 34, reduce 35, .shift 94],
     [reduce 34, .shift 198]],
    [[reduce 34, .shift 94],
     [reduce 34, reduce 37],
     [reduce 37, .shift 210],
     [reduce 37, .shift 233],
     [reduce 34, reduce 39],
     [reduce 34, .shift 134],
     [reduce 103, reduce 35],
     [reduce 34, .shift 85],
     [reduce 103, reduce 111],
     [reduce 111, .shift 212],
     [reduce 111, .shift 235],
     [reduce 103, reduce 116]],
    [[reduce 103, .shift 135],
     [reduce 10, reduce 11],
     [reduce 122, reduce 123],
     [reduce 130, reduce 131],
     [reduce 103, reduce 172],
     [reduce 165, reduce 174],
     [reduce 134, reduce 175],
     [reduce 167, reduce 174],
     [reduce 167, reduce 176],
     [reduce 178, .shift 255],
     [reduce 178, .shift 279],
     [reduce 182, reduce 183]],
    [[reduce 184, .shiftAgain 1185],
     [reduce 184, .shiftAgain 979],
     [reduce 184, .shiftAgain 862],
     [reduce 184, .shiftAgain 269],
     [reduce 184, .shiftAgain 1190],
     [reduce 184, .shiftAgain 1191],
     [reduce 184, .shiftAgain 895],
     [reduce 184, .shiftAgain 1061],
     [reduce 184, .shiftAgain 1217],
     [reduce 184, .shiftAgain 882],
     [reduce 184, .shiftAgain 955],
     [reduce 184, .shiftAgain 905]],
    [[reduce 35, .shift 1384],
     [reduce 185, reduce 186],
     [reduce 188, .shiftAgain 1217],
     [reduce 195, .shiftAgain 952],
     [reduce 202, .shiftAgain 101],
     [reduce 202, .shiftAgain 1007],
     [reduce 202, .shiftAgain 1137],
     [reduce 203, .shiftAgain 1039],
     [reduce 203, .shiftAgain 105],
     [reduce 209, .shift 1420],
     [reduce 171, .shiftAgain 215],
     [reduce 214, .shiftAgain 1062]],
    [[reduce 214, .shiftAgain 125],
     [reduce 218, .shiftAgain 1541],
     [reduce 218, .shiftAgain 133],
     [reduce 179, .shiftAgain 97],
     [reduce 231, .shiftAgain 1168],
     [reduce 232, .shiftAgain 1169],
     [reduce 171, .shiftAgain 185],
     [reduce 233, .shiftAgain 1034],
     [reduce 235, .shiftAgain 1183],
     [reduce 236, .shiftAgain 1184],
     [reduce 239, .shiftAgain 860],
     [reduce 240, .shiftAgain 868]],
    [[reduce 243, .shiftAgain 92],
     [reduce 247, .shiftAgain 104],
     [reduce 249, .shiftAgain 1045],
     [reduce 250, .shiftAgain 1046],
     [.accept]]]

/-- For each terminal, the sets of terminals it belongs to, one bit per set. -/
def memberships : List (List Nat) := [
  [0x76000100000c4040000000000006,
   0xc0491f8900040000000000000000000000080076000160000c4000000000000014,
   0x24,
   0x1f8100040000000000000000000000080076000364002c4100000000000044,
   0x1f80004001000080049f80200077f7f7ff81ca5d80000c8000200000000004,
   0x8000000000000000000000000000000000076000100080c40c0000000000004,
   0x2001000000000000000000000000000000000000000000000000000000000000000004,
   0x20008c04000000003ffc00000000000000007f4881876800100000c4000000000000084,
   0x100011120020000080033ffffffdffff000b5f476da010e6d8a114c8e00400000000004,
   0x102201a0000080000001fffcffff000b5f4165876046500000c46c0800000000004,
   0x80076000100000c4000000000000104,
   0x4081000000000000000000000000000000000000000000000000000000000000000004],
  [0x80100000000000000000000000000000000000080076000100000c4000000000000204,
   0x80076000100000c4000000000000404,
   0x1f8900040000000000000000000000080076000364200c4100000000000804,
   0x80076000100200c4000000000001004,
   0x20000000000000007a000100000c4000000000000004,
   0x80076000100000c4000000000002004,
   0x80076000100000c4000000000004004,
   0x80076000100000c4000000000008004,
   0x110000244600000000000000958000000663fffe77000102000c4000000000010004,
   0xc01013000a4400000013ffefffdffff000b5f47ede674a4d8a120c4e00000000020004,
   0x111000220000000000000001000407ff00085f400580200240001800200000000000004,
   0x80076000100000c4000000000040004],
  [0x100010a000002260898044c2269f91300137f6b7dd01d25c8a100cbe00000000000004,
   0x100010a00000fff0000bffe0008f80000033f6341900220000000c2800000000000004,
   0x200000000000080076000100000c4000000000080004,
   0x80076000100000c4000000000100004,
   0x80076000100000c4000000000200004,
   0x80076000100000c4000000000400004,
   0x80076000100000c4000000000800004,
   0x80076000100000c4000000001000004,
   0x80076000100000c4000000002000004,
   0x80076000100000c4000000004000004,
   0x1020000020003ffc0000000447ff00087f480580080040040001200000000000004,
   0x2000000000000000000000000000000000000076000100000c40c0000000000004],
  [0x810000000000000000000004,
   0x2001010000000000000000000004,
   0x80076000100000c4000000008000004,
   0x1010502000440000002800100000000000000004080000000000010000000000000004,
   0x1f8000000000000000950000002653ffd9f6ca5d02100c4000000010000004,
   0x1000220000000000000001000407ff00085f400580004240001500200000000000004,
   0xc08000040000000000000000000000000000000000000000000000000000000000000,
   0x8000000002260898444c2269f91300137f7fffff7ca5d8a100c4000000020000004,
   0xc05200002260898444c2269f91300137f7f7ff81ca5c8a100cbe00000000000004,
   0x2c04100000000000000000000000000000000000000000000000000000000000000,
   0x8000040000000000000000950000002653f7ff81ca5c8a140cbe00000000000004,
   0x8000080000000000000000000000000000000000000000000000000000000000004],
  [0xc05400000000000000000000000000000000000000000000000000000000000000,
   0x1f8000000000000000000000000000080076000100000c4000000040000004,
   0x1f8000000000000000000000000000080076000100000c4000000080000004,
   0x400000000000000000000000000000000000000000000000000000000000000000000,
   0x800000000000000000000000000000000000000000000000000000000000000000000,
   0x58000000000000000000000000000080076000100000c4000000100000004,
   0x4000000000000000000000000000000000000000000000000000000000000000004,
   0x1f8100000000000000000000000000080076000344000c4000000200000004,
   0x80076000100000c4000000400000004,
   0x20000000000000000000000000000000000000000000000000080000000000000000004,
   0x20000000000000000095000000265bf7ff81ca5c8a100cbe00000000000004,
   0x80076000100000c4000000800000004],
  [0x4080000000100000000000000000004,
   0x4080000000100000000000000000004,
   0x4080000000100000000000000000004,
   0x4080000000100000000000000000004,
   0x4080000000100000000000000000004,
   0x4080000000100000000000000000004,
   0x4080000000100000000000000000004,
   0x4080000000100000000000000000004,
   0x4080000000100000000000000000004,
   0x4080000000100000000000000000004,
   0x4080000000100000000000000000004,
   0x4080000000100000000000000000004],
  [0x4080000000100000000000000000004,
   0x4080000000100000000000000000004,
   0x4080000000100000000000000000004,
   0x1000000000004,
   0x7ee1fb80fdc7ee9fbf700237f7f7ff81ca5c8a100cbe00000000000004,
   0x7fe1ff80ffc7fe9fbff00437f7f7ff81ca5c8a100cbe00000000000004,
   0x224089004482249f91200837f7f7ff81ca5c8a100cbe00000000000004,
   0x224089004482249f91200837f7f7ff81ca5c8a100cbe00000000000004,
   0x224089004482249f91200837f7f7ff81ca5c8a100cbe00000000000004,
   0x66619980ccc6669fb3301037f7f7ff81ca5c8a100cbe00000000000004,
   0x6e61b980dcc6e69fb7302037f7f7ff81ca5c8a100cbe00000000000004,
   0x7e61f980fcc7e69fbf304037f7f7ff81ca5c8a100cbe00000000000004],
  [0x204081004082049f90208037f7fffff7ca5d8a100c4000001000000004,
   0x204081004082049f90208037f7fffff7ca5d8a100c4000001000000004,
   0x4001000080049f80200077f7fffff7ca5d8a100c4000002000000004,
   0x4001000080049f80200077f7f7ff81ca5c8a100cbe00000000000004,
   0x9f80010037f7f7ff81ca5c8a100cbe00000000000004,
   0x2260898444c2269f91300137f7f7ff81ca5c8a100cbe00000000000004,
   0x62618980c4c6269fb1320037f7f7ff81ca5c8a100cbe00000000000004,
   0x62618980c4c6269fb1320037f7f7ff81ca5c8a100cbe00000000000004,
   0x62618980c4c6269fb1320037f7f7ff81ca5c8a100cbe00000000000004,
   0x62618980c4c6269fb1320037f7f7ff81ca5c8a100cbe00000000000004,
   0x2260898444c2269f91300137f7f7ff81ca5c8a100cbe00000000000004,
   0xffe3ff81ffcffe9ffff40037f7f7ff81ca5c8a100cbe00000000000004],
  [0x2260898444c2269f91300137f7f7ff81ca5c8a100cbe00000000000004,
   0x80076000100000c4000001000000004,
   0x80076000100000c4000001000000004,
   0x80076000100000c4000001000000004,
   0x80076000100000c4000001000000004,
   0x80076000100000c4000001000000004,
   0x9d8000003777fffff7ca5d8a100c4000004000000004,
   0x9d8000003777fffff7ca5d8a100c4000004000000004,
   0x20000000000000000000000000000000000000000000000000000000000000000000,
   0x40000000000000000000000000000000000000000000000000000000000000000000,
   0x260040000000000000000000000000000000000000000000000000000000000000004,
   0x8],
  [0x20000000000fff3ffc1ffefff9e7ff0008783fffff7ca5d8a100c4000008000000004,
   0x200080000000000000000000000000000000000000000000000000000000000000004,
   0x200000000000000000000000000000000000000000000000000000000000000000000004,
   0x40000000000000000000000000000000000000000000000000000000000000000000000,
   0x80000000000000000000000000000000000,
   0x1f8000000000000000000000000000080076000110000c4002010000000004,
   0x1f8000000000000000000000000000080076000110000c4000020000000004,
   0x100000000000000000000000000000000000000000000000000000000000000000000004,
   0x80000000000000000000000000000000000000000000000000000000000000000000004,
   0x80076000100000c4004010000000004,
   0x80076000100000c4004010000000004,
   0x80076000100000c4004010000000004],
  [0x80076000100000c4004010000000004,
   0x80076000100000c4004010000000004,
   0x80076000100000c4000040000000004,
   0x1e8000000000000000000000000000080076000100000c4000080000000004,
   0x1f8100000000000000000000000000080076000364002c4108100000000004,
   0x1f800000000000000000000000000000000000010000000010000000000004,
   0x1f9000000000000000000000000000080076000340002c4120100000000004,
   0x1fa000000000000000000000000000080076000340002c4120100000000004,
   0xc0101000004000000013ffefff0f800000300036844142488a12060c00000000000004,
   0x200040000000000000000000000000000000000000000000000000000000000000004,
   0xffe3ff81ffcffe9ffff80037f7f7ff81ca5c8a100cbe00000000000004,
   0x8],
  [0x8000040000000000000000000000000000000000000000000000000000000000004]]

end Bookmarklet.Script.Grammar
