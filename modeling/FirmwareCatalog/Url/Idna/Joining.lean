/-
**Marks and joiners in labels.**

A label does not begin with a mark, and the two invisible joiners stand only where they change how
the label looks: after a mark that takes away the vowel of the letter before, and the one that keeps
letters apart also between two letters that would otherwise be written joined.

Main definitions:

* `Idna.isMark` — marks;
* `Idna.joining?` — how a letter joins its neighbours;
* `Idna.joinersInPlace` — every joiner of a label stands where it may.
-/
import FirmwareCatalog.Url.Idna.Normal

set_option relaxedAutoImplicit false
set_option autoImplicit false

namespace FirmwareCatalog.Idna

/-! ### Tables -/

/-- The ranges of marks. -/
def markLines : List String :=
  ["300 36f,483 489,591 5bd,5bf 5bf,5c1 5c2,5c4 5c5,5c7 5c7,610 61a,64b 65f,670 670,6d6 6dc,6df 6e4",
   "6e7 6e8,6ea 6ed,711 711,730 74a,7a6 7b0,7eb 7f3,7fd 7fd,816 819,81b 823,825 827,829 82d,859 85b",
   "898 89f,8ca 903,93a 93c,93e 94f,951 957,962 963,981 983,9bc 9bc,9be 9cd,9d7 9d7,9e2 9e3,9fe a03",
   "a3c a51,a70 a71,a75 a75,a81 a83,abc abc,abe acd,ae2 ae3,afa b03,b3c b3c,b3e b57,b62 b63,b82 b82",
   "bbe bcd,bd7 bd7,c00 c04,c3c c3c,c3e c56,c62 c63,c81 c83,cbc cbc,cbe cd6,ce2 ce3,cf3 d03,d3b d3c",
   "d3e d4d,d57 d57,d62 d63,d81 d83,dca ddf,df2 df3,e31 e31,e34 e3a,e47 e4e,eb1 eb1,eb4 ebc,ec8 ece",
   "f18 f19,f35 f35,f37 f37,f39 f39,f3e f3f,f71 f84,f86 f87,f8d fbc,fc6 fc6,102b 103e,1056 1059",
   "105e 1060,1062 1064,1067 106d,1071 1074,1082 108d,108f 108f,109a 109d,135d 135f,1712 1715",
   "1732 1734,1752 1753,1772 1773,17b6 17d3,17dd 17dd,1885 1886,18a9 18a9,1920 193b,1a17 1a1b",
   "1a55 1a7f,1ab0 1b04,1b34 1b44,1b6b 1b73,1b80 1b82,1ba1 1bad,1be6 1bf3,1c24 1c37,1cd0 1cd2",
   "1cd4 1ce8,1ced 1ced,1cf4 1cf4,1cf7 1cf9,1dc0 1dff,20d0 20f0,2cef 2cf1,2d7f 2d7f,2de0 2dff",
   "302a 302f,3099 309a,a66f a672,a674 a67d,a69e a69f,a6f0 a6f1,a802 a802,a806 a806,a80b a80b",
   "a823 a827,a82c a82c,a880 a881,a8b4 a8c5,a8e0 a8f1,a8ff a8ff,a926 a92d,a947 a953,a980 a983",
   "a9b3 a9c0,a9e5 a9e5,aa29 aa36,aa43 aa43,aa4c aa4d,aa7b aa7d,aab0 aab0,aab2 aab4,aab7 aab8",
   "aabe aabf,aac1 aac1,aaeb aaef,aaf5 aaf6,abe3 abea,abec abed,fb1e fb1e,fe20 fe2f,101fd 101fd",
   "102e0 102e0,10376 1037a,10a01 10a0f,10a38 10a3f,10ae5 10ae6,10d24 10d27,10eab 10eac,10efd 10eff",
   "10f46 10f50,10f82 10f85,11000 11002,11038 11046,11070 11070,11073 11074,1107f 11082,110b0 110ba",
   "110c2 110c2,11100 11102,11127 11134,11145 11146,11173 11173,11180 11182,111b3 111c0,111c9 111cc",
   "111ce 111cf,1122c 11237,1123e 1123e,11241 11241,112df 112ea,11300 11303,1133b 1133c,1133e 1134d",
   "11357 11357,11362 11374,11435 11446,1145e 1145e,114b0 114c3,115af 115c0,115dc 115dd,11630 11640",
   "116ab 116b7,1171d 1172b,1182c 1183a,11930 1193e,11940 11940,11942 11943,119d1 119e0,119e4 119e4",
   "11a01 11a0a,11a33 11a39,11a3b 11a3e,11a47 11a47,11a51 11a5b,11a8a 11a99,11c2f 11c3f,11c92 11cb6",
   "11d31 11d45,11d47 11d47,11d8a 11d97,11ef3 11ef6,11f00 11f01,11f03 11f03,11f34 11f42,13440 13440",
   "13447 13455,16af0 16af4,16b30 16b36,16f4f 16f4f,16f51 16f92,16fe4 16ff1,1bc9d 1bc9e,1cf00 1cf46",
   "1d165 1d169,1d16d 1d182,1d185 1d18b,1d1aa 1d1ad,1d242 1d244,1da00 1da36,1da3b 1da6c,1da75 1da75",
   "1da84 1da84,1da9b 1daaf,1e000 1e08f,1e130 1e136,1e2ae 1e2ae,1e2ec 1e2ef,1e4ec 1e4ef,1e8d0 1e8d6",
   "1e944 1e94a"]

/-- The ranges of characters that join: `0` to both sides, `1` to the left, `2` to the right, and
`3` if the joining passes through them. -/
def joiningLines : List String :=
  ["300 36f 3,483 489 3,591 5bd 3,5bf 5bf 3,5c1 5c2 3,5c4 5c5 3,5c7 5c7 3,610 61a 3,620 620 0",
   "622 625 2,626 626 0,627 627 2,628 628 0,629 629 2,62a 62e 0,62f 632 2,633 63f 0,641 647 0",
   "648 648 2,649 64a 0,64b 65f 3,66e 66f 0,670 670 3,671 673 2,679 687 0,688 699 2,69a 6bf 0",
   "6c0 6c0 2,6c1 6c2 0,6c3 6cb 2,6cc 6cc 0,6cd 6cd 2,6ce 6ce 0,6cf 6cf 2,6d0 6d1 0,6d2 6d3 2",
   "6d5 6d5 2,6d6 6dc 3,6df 6e4 3,6e7 6e8 3,6ea 6ed 3,6ee 6ef 2,6fa 6fc 0,6ff 6ff 0,710 710 2",
   "711 711 3,712 714 0,715 719 2,71a 71d 0,71e 71e 2,71f 727 0,728 728 2,729 729 0,72a 72a 2",
   "72b 72b 0,72c 72c 2,72d 72e 0,72f 72f 2,730 74a 3,74d 74d 2,74e 758 0,759 75b 2,75c 76a 0",
   "76b 76c 2,76d 770 0,771 771 2,772 772 0,773 774 2,775 777 0,778 779 2,77a 77f 0,7a6 7b0 3",
   "7ca 7ea 0,7eb 7f3 3,7fd 7fd 3,816 819 3,81b 823 3,825 827 3,829 82d 3,840 840 2,841 845 0",
   "846 847 2,848 848 0,849 849 2,84a 853 0,854 854 2,855 855 0,856 858 2,859 85b 3,860 860 0",
   "862 865 0,867 867 2,868 868 0,869 882 2,886 886 0,889 88d 0,88e 88e 2,898 89f 3,8a0 8a9 0",
   "8aa 8ac 2,8ae 8ae 2,8af 8b0 0,8b1 8b2 2,8b3 8b8 0,8b9 8b9 2,8ba 8c8 0,8ca 902 3,93a 93a 3",
   "93c 93c 3,941 948 3,94d 94d 3,951 957 3,962 963 3,981 981 3,9bc 9bc 3,9c1 9c4 3,9cd 9cd 3",
   "9e2 9e3 3,9fe a02 3,a3c a3c 3,a41 a51 3,a70 a71 3,a75 a75 3,a81 a82 3,abc abc 3,ac1 ac8 3",
   "acd acd 3,ae2 ae3 3,afa b01 3,b3c b3c 3,b3f b3f 3,b41 b44 3,b4d b56 3,b62 b63 3,b82 b82 3",
   "bc0 bc0 3,bcd bcd 3,c00 c00 3,c04 c04 3,c3c c3c 3,c3e c40 3,c46 c56 3,c62 c63 3,c81 c81 3",
   "cbc cbc 3,cbf cbf 3,cc6 cc6 3,ccc ccd 3,ce2 ce3 3,d00 d01 3,d3b d3c 3,d41 d44 3,d4d d4d 3",
   "d62 d63 3,d81 d81 3,dca dca 3,dd2 dd6 3,e31 e31 3,e34 e3a 3,e47 e4e 3,eb1 eb1 3,eb4 ebc 3",
   "ec8 ece 3,f18 f19 3,f35 f35 3,f37 f37 3,f39 f39 3,f71 f7e 3,f80 f84 3,f86 f87 3,f8d fbc 3",
   "fc6 fc6 3,102d 1030 3,1032 1037 3,1039 103a 3,103d 103e 3,1058 1059 3,105e 1060 3,1071 1074 3",
   "1082 1082 3,1085 1086 3,108d 108d 3,109d 109d 3,135d 135f 3,1712 1714 3,1732 1733 3,1752 1753 3",
   "1772 1773 3,17b7 17bd 3,17c6 17c6 3,17c9 17d3 3,17dd 17dd 3,1807 1807 0,1820 1878 0,1885 1886 3",
   "1887 18a8 0,18a9 18a9 3,18aa 18aa 0,1920 1922 3,1927 1928 3,1932 1932 3,1939 193b 3,1a17 1a18 3",
   "1a1b 1a1b 3,1a56 1a56 3,1a58 1a60 3,1a62 1a62 3,1a65 1a6c 3,1a73 1a7f 3,1ab0 1b03 3,1b34 1b34 3",
   "1b36 1b3a 3,1b3c 1b3c 3,1b42 1b42 3,1b6b 1b73 3,1b80 1b81 3,1ba2 1ba5 3,1ba8 1ba9 3,1bab 1bad 3",
   "1be6 1be6 3,1be8 1be9 3,1bed 1bed 3,1bef 1bf1 3,1c2c 1c33 3,1c36 1c37 3,1cd0 1cd2 3,1cd4 1ce0 3",
   "1ce2 1ce8 3,1ced 1ced 3,1cf4 1cf4 3,1cf8 1cf9 3,1dc0 1dff 3,20d0 20f0 3,2cef 2cf1 3,2d7f 2d7f 3",
   "2de0 2dff 3,302a 302d 3,3099 309a 3,a66f a672 3,a674 a67d 3,a69e a69f 3,a6f0 a6f1 3,a802 a802 3",
   "a806 a806 3,a80b a80b 3,a825 a826 3,a82c a82c 3,a840 a871 0,a872 a872 1,a8c4 a8c5 3,a8e0 a8f1 3",
   "a8ff a8ff 3,a926 a92d 3,a947 a951 3,a980 a982 3,a9b3 a9b3 3,a9b6 a9b9 3,a9bc a9bd 3,a9e5 a9e5 3",
   "aa29 aa2e 3,aa31 aa32 3,aa35 aa36 3,aa43 aa43 3,aa4c aa4c 3,aa7c aa7c 3,aab0 aab0 3,aab2 aab4 3",
   "aab7 aab8 3,aabe aabf 3,aac1 aac1 3,aaec aaed 3,aaf6 aaf6 3,abe5 abe5 3,abe8 abe8 3,abed abed 3",
   "fb1e fb1e 3,fe20 fe2f 3,101fd 101fd 3,102e0 102e0 3,10376 1037a 3,10a01 10a0f 3,10a38 10a3f 3",
   "10ac0 10ac4 0,10ac5 10ac5 2,10ac7 10ac7 2,10ac9 10aca 2,10acd 10acd 1,10ace 10ad2 2",
   "10ad3 10ad6 0,10ad7 10ad7 1,10ad8 10adc 0,10add 10add 2,10ade 10ae0 0,10ae1 10ae1 2",
   "10ae4 10ae4 2,10ae5 10ae6 3,10aeb 10aee 0,10aef 10aef 2,10b80 10b80 0,10b81 10b81 2",
   "10b82 10b82 0,10b83 10b85 2,10b86 10b88 0,10b89 10b89 2,10b8a 10b8b 0,10b8c 10b8c 2",
   "10b8d 10b8d 0,10b8e 10b8f 2,10b90 10b90 0,10b91 10b91 2,10ba9 10bac 2,10bad 10bae 0",
   "10d00 10d00 1,10d01 10d21 0,10d22 10d22 2,10d23 10d23 0,10d24 10d27 3,10eab 10eac 3",
   "10efd 10eff 3,10f30 10f32 0,10f33 10f33 2,10f34 10f44 0,10f46 10f50 3,10f51 10f53 0",
   "10f54 10f54 2,10f70 10f73 0,10f74 10f75 2,10f76 10f81 0,10f82 10f85 3,10fb0 10fb0 0",
   "10fb2 10fb3 0,10fb4 10fb6 2,10fb8 10fb8 0,10fb9 10fba 2,10fbb 10fbc 0,10fbd 10fbd 2",
   "10fbe 10fbf 0,10fc1 10fc1 0,10fc2 10fc3 2,10fc4 10fc4 0,10fc9 10fc9 2,10fca 10fca 0",
   "10fcb 10fcb 1,11001 11001 3,11038 11046 3,11070 11070 3,11073 11074 3,1107f 11081 3",
   "110b3 110b6 3,110b9 110ba 3,110c2 110c2 3,11100 11102 3,11127 1112b 3,1112d 11134 3",
   "11173 11173 3,11180 11181 3,111b6 111be 3,111c9 111cc 3,111cf 111cf 3,1122f 11231 3",
   "11234 11234 3,11236 11237 3,1123e 1123e 3,11241 11241 3,112df 112df 3,112e3 112ea 3",
   "11300 11301 3,1133b 1133c 3,11340 11340 3,11366 11374 3,11438 1143f 3,11442 11444 3",
   "11446 11446 3,1145e 1145e 3,114b3 114b8 3,114ba 114ba 3,114bf 114c0 3,114c2 114c3 3",
   "115b2 115b5 3,115bc 115bd 3,115bf 115c0 3,115dc 115dd 3,11633 1163a 3,1163d 1163d 3",
   "1163f 11640 3,116ab 116ab 3,116ad 116ad 3,116b0 116b5 3,116b7 116b7 3,1171d 1171f 3",
   "11722 11725 3,11727 1172b 3,1182f 11837 3,11839 1183a 3,1193b 1193c 3,1193e 1193e 3",
   "11943 11943 3,119d4 119db 3,119e0 119e0 3,11a01 11a0a 3,11a33 11a38 3,11a3b 11a3e 3",
   "11a47 11a47 3,11a51 11a56 3,11a59 11a5b 3,11a8a 11a96 3,11a98 11a99 3,11c30 11c3d 3",
   "11c3f 11c3f 3,11c92 11ca7 3,11caa 11cb0 3,11cb2 11cb3 3,11cb5 11cb6 3,11d31 11d45 3",
   "11d47 11d47 3,11d90 11d91 3,11d95 11d95 3,11d97 11d97 3,11ef3 11ef4 3,11f00 11f01 3",
   "11f36 11f3a 3,11f40 11f40 3,11f42 11f42 3,13440 13440 3,13447 13455 3,16af0 16af4 3",
   "16b30 16b36 3,16f4f 16f4f 3,16f8f 16f92 3,16fe4 16fe4 3,1bc9d 1bc9e 3,1cf00 1cf46 3",
   "1d167 1d169 3,1d17b 1d182 3,1d185 1d18b 3,1d1aa 1d1ad 3,1d242 1d244 3,1da00 1da36 3",
   "1da3b 1da6c 3,1da75 1da75 3,1da84 1da84 3,1da9b 1daaf 3,1e000 1e08f 3,1e130 1e136 3",
   "1e2ae 1e2ae 3,1e2ec 1e2ef 3,1e4ec 1e4ef 3,1e8d0 1e8d6 3,1e922 1e943 0,1e944 1e94b 3"]

def marks : List (List Nat) := Rows.read markLines

def joinings : List (List Nat) := Rows.read joiningLines

/-- The character is a mark. -/
def isMark (c : Char) : Bool := Rows.covers marks c

/-- How a character joins its neighbours. -/
inductive Joining where
  | both
  | left
  | right
  | through
  deriving DecidableEq, Repr

/-- How a character joins its neighbours, if it does. -/
def joining? (c : Char) : Option Joining :=
  match Rows.value? joinings c with
  | some 0 => some .both
  | some 1 => some .left
  | some 2 => some .right
  | some 3 => some .through
  | _ => none

/-! ### The rule -/

def separator : Char := Char.ofNat 0x200C

def connector : Char := Char.ofNat 0x200D

def firstJoining? (s : List Char) : Option Joining :=
  (s.dropWhile fun c => joining? c == some .through).head?.bind joining?

/-- A joiner may stand after the text `before`, which is given from its end on, and before the text
`after`. -/
def joinerFits (joiner : Char) (before after : List Char) : Bool :=
  match before with
  | [] => false
  | c :: _ =>
    markClass c == 9 ||
      (joiner == separator &&
        (firstJoining? before == some .left || firstJoining? before == some .both) &&
        (firstJoining? after == some .right || firstJoining? after == some .both))

/-- Every joiner of a label stands where it may; the first argument is what was passed, from its end
on. -/
def joinersInPlaceFrom : List Char → List Char → Bool
  | _, [] => true
  | before, c :: rest =>
    (!(c == separator || c == connector) || joinerFits c before rest) &&
      joinersInPlaceFrom (c :: before) rest

/-- Every joiner of a label stands where it may. -/
def joinersInPlace (label : List Char) : Bool := joinersInPlaceFrom [] label

end FirmwareCatalog.Idna
