import AccessPolicy.Text.RangeTable
/-!
# Case of Unicode 17.0

The simple case maps send a character to its one-character lower-case or upper-case form, from
the Unicode Character Database 17.0.0: `A` to `a`, `Σ` to `σ`, `ǅ` to `ǆ` and `Ǆ`. A character
without a form of the other case stays as it is; so does `ß`, whose upper-case form has two
characters.

Characters that are equal when case is ignored make up a *case class*: the characters that the
simple case folding sends to one character, that character among them. So `k`, `K` and the
Kelvin sign are one class, and so are `s`, `S` and the long `ſ`, but the dotted capital `İ` and
the dotless `ı` are each alone. The table lists every class of two or more characters, as the
hexadecimal code points of its members in ascending order, joined by commas, and runs of classes
of two whose members lie the same distance apart as one word each.
-/

namespace AccessPolicy.CharClass

def lowerMap : Array CaseEntry :=
  readCaseMap <|
  String.join
    ["41-5a/1+20 c0-d6/1+20 d8-de/1+20 100-12e/2+1 130/1-c7 132-136/2+1 139-147/2+1 14a-176/2+1 ",
     "178/1-79 179-17d/2+1 181/1+d2 182-184/2+1 186/1+ce 187/1+1 189-18a/1+cd 18b/1+1 18e/1+4f ",
     "18f/1+ca 190/1+cb 191/1+1 193/1+cd 194/1+cf 196/1+d3 197/1+d1 198/1+1 19c/1+d3 19d/1+d5 ",
     "19f/1+d6 1a0-1a4/2+1 1a6/1+da 1a7/1+1 1a9/1+da 1ac/1+1 1ae/1+da 1af/1+1 1b1-1b2/1+d9 ",
     "1b3-1b5/2+1 1b7/1+db 1b8/1+1 1bc/1+1 1c4/1+2 1c5/1+1 1c7/1+2 1c8/1+1 1ca/1+2 1cb-1db/2+1 ",
     "1de-1ee/2+1 1f1/1+2 1f2-1f4/2+1 1f6/1-61 1f7/1-38 1f8-21e/2+1 220/1-82 222-232/2+1 ",
     "23a/1+2a2b 23b/1+1 23d/1-a3 23e/1+2a28 241/1+1 243/1-c3 244/1+45 245/1+47 246-24e/2+1 ",
     "370-372/2+1 376/1+1 37f/1+74 386/1+26 388-38a/1+25 38c/1+40 38e-38f/1+3f 391-3a1/1+20 ",
     "3a3-3ab/1+20 3cf/1+8 3d8-3ee/2+1 3f4/1-3c 3f7/1+1 3f9/1-7 3fa/1+1 3fd-3ff/1-82 400-40f/1+50 ",
     "410-42f/1+20 460-480/2+1 48a-4be/2+1 4c0/1+f 4c1-4cd/2+1 4d0-52e/2+1 531-556/1+30 ",
     "10a0-10c5/1+1c60 10c7/1+1c60 10cd/1+1c60 13a0-13ef/1+97d0 13f0-13f5/1+8 1c89/1+1 ",
     "1c90-1cba/1-bc0 1cbd-1cbf/1-bc0 1e00-1e94/2+1 1e9e/1-1dbf 1ea0-1efe/2+1 1f08-1f0f/1-8 ",
     "1f18-1f1d/1-8 1f28-1f2f/1-8 1f38-1f3f/1-8 1f48-1f4d/1-8 1f59-1f5f/2-8 1f68-1f6f/1-8 ",
     "1f88-1f8f/1-8 1f98-1f9f/1-8 1fa8-1faf/1-8 1fb8-1fb9/1-8 1fba-1fbb/1-4a 1fbc/1-9 ",
     "1fc8-1fcb/1-56 1fcc/1-9 1fd8-1fd9/1-8 1fda-1fdb/1-64 1fe8-1fe9/1-8 1fea-1feb/1-70 1fec/1-7 ",
     "1ff8-1ff9/1-80 1ffa-1ffb/1-7e 1ffc/1-9 2126/1-1d5d 212a/1-20bf 212b/1-2046 2132/1+1c ",
     "2160-216f/1+10 2183/1+1 24b6-24cf/1+1a 2c00-2c2f/1+30 2c60/1+1 2c62/1-29f7 2c63/1-ee6 ",
     "2c64/1-29e7 2c67-2c6b/2+1 2c6d/1-2a1c 2c6e/1-29fd 2c6f/1-2a1f 2c70/1-2a1e 2c72/1+1 2c75/1+1 ",
     "2c7e-2c7f/1-2a3f 2c80-2ce2/2+1 2ceb-2ced/2+1 2cf2/1+1 a640-a66c/2+1 a680-a69a/2+1 ",
     "a722-a72e/2+1 a732-a76e/2+1 a779-a77b/2+1 a77d/1-8a04 a77e-a786/2+1 a78b/1+1 a78d/1-a528 ",
     "a790-a792/2+1 a796-a7a8/2+1 a7aa/1-a544 a7ab/1-a54f a7ac/1-a54b a7ad/1-a541 a7ae/1-a544 ",
     "a7b0/1-a512 a7b1/1-a52a a7b2/1-a515 a7b3/1+3a0 a7b4-a7c2/2+1 a7c4/1-30 a7c5/1-a543 ",
     "a7c6/1-8a38 a7c7-a7c9/2+1 a7cb/1-a567 a7cc-a7da/2+1 a7dc/1-a641 a7f5/1+1 ff21-ff3a/1+20 ",
     "10400-10427/1+28 104b0-104d3/1+28 10570-1057a/1+27 1057c-1058a/1+27 1058c-10592/1+27 ",
     "10594-10595/1+27 10c80-10cb2/1+40 10d50-10d65/1+20 118a0-118bf/1+20 16e40-16e5f/1+20 ",
     "16ea0-16eb8/1+1b 1e900-1e921/1+22 "]

def upperMap : Array CaseEntry :=
  readCaseMap <|
  String.join
    ["61-7a/1-20 b5/1+2e7 e0-f6/1-20 f8-fe/1-20 ff/1+79 101-12f/2-1 131/1-e8 133-137/2-1 ",
     "13a-148/2-1 14b-177/2-1 17a-17e/2-1 17f/1-12c 180/1+c3 183-185/2-1 188/1-1 18c/1-1 192/1-1 ",
     "195/1+61 199/1-1 19a/1+a3 19b/1+a641 19e/1+82 1a1-1a5/2-1 1a8/1-1 1ad/1-1 1b0/1-1 ",
     "1b4-1b6/2-1 1b9/1-1 1bd/1-1 1bf/1+38 1c5/1-1 1c6/1-2 1c8/1-1 1c9/1-2 1cb/1-1 1cc/1-2 ",
     "1ce-1dc/2-1 1dd/1-4f 1df-1ef/2-1 1f2/1-1 1f3/1-2 1f5/1-1 1f9-21f/2-1 223-233/2-1 23c/1-1 ",
     "23f-240/1+2a3f 242/1-1 247-24f/2-1 250/1+2a1f 251/1+2a1c 252/1+2a1e 253/1-d2 254/1-ce ",
     "256-257/1-cd 259/1-ca 25b/1-cb 25c/1+a54f 260/1-cd 261/1+a54b 263/1-cf 264/1+a567 ",
     "265/1+a528 266/1+a544 268/1-d1 269/1-d3 26a/1+a544 26b/1+29f7 26c/1+a541 26f/1-d3 ",
     "271/1+29fd 272/1-d5 275/1-d6 27d/1+29e7 280/1-da 282/1+a543 283/1-da 287/1+a52a 288/1-da ",
     "289/1-45 28a-28b/1-d9 28c/1-47 292/1-db 29d/1+a515 29e/1+a512 345/1+54 371-373/2-1 377/1-1 ",
     "37b-37d/1+82 3ac/1-26 3ad-3af/1-25 3b1-3c1/1-20 3c2/1-1f 3c3-3cb/1-20 3cc/1-40 3cd-3ce/1-3f ",
     "3d0/1-3e 3d1/1-39 3d5/1-2f 3d6/1-36 3d7/1-8 3d9-3ef/2-1 3f0/1-56 3f1/1-50 3f2/1+7 3f3/1-74 ",
     "3f5/1-60 3f8/1-1 3fb/1-1 430-44f/1-20 450-45f/1-50 461-481/2-1 48b-4bf/2-1 4c2-4ce/2-1 ",
     "4cf/1-f 4d1-52f/2-1 561-586/1-30 10d0-10fa/1+bc0 10fd-10ff/1+bc0 13f8-13fd/1-8 1c80/1-186e ",
     "1c81/1-186d 1c82/1-1864 1c83-1c84/1-1862 1c85/1-1863 1c86/1-185c 1c87/1-1825 1c88/1+89c2 ",
     "1c8a/1-1 1d79/1+8a04 1d7d/1+ee6 1d8e/1+8a38 1e01-1e95/2-1 1e9b/1-3b 1ea1-1eff/2-1 ",
     "1f00-1f07/1+8 1f10-1f15/1+8 1f20-1f27/1+8 1f30-1f37/1+8 1f40-1f45/1+8 1f51-1f57/2+8 ",
     "1f60-1f67/1+8 1f70-1f71/1+4a 1f72-1f75/1+56 1f76-1f77/1+64 1f78-1f79/1+80 1f7a-1f7b/1+70 ",
     "1f7c-1f7d/1+7e 1f80-1f87/1+8 1f90-1f97/1+8 1fa0-1fa7/1+8 1fb0-1fb1/1+8 1fb3/1+9 1fbe/1-1c25 ",
     "1fc3/1+9 1fd0-1fd1/1+8 1fe0-1fe1/1+8 1fe5/1+7 1ff3/1+9 214e/1-1c 2170-217f/1-10 2184/1-1 ",
     "24d0-24e9/1-1a 2c30-2c5f/1-30 2c61/1-1 2c65/1-2a2b 2c66/1-2a28 2c68-2c6c/2-1 2c73/1-1 ",
     "2c76/1-1 2c81-2ce3/2-1 2cec-2cee/2-1 2cf3/1-1 2d00-2d25/1-1c60 2d27/1-1c60 2d2d/1-1c60 ",
     "a641-a66d/2-1 a681-a69b/2-1 a723-a72f/2-1 a733-a76f/2-1 a77a-a77c/2-1 a77f-a787/2-1 ",
     "a78c/1-1 a791-a793/2-1 a794/1+30 a797-a7a9/2-1 a7b5-a7c3/2-1 a7c8-a7ca/2-1 a7cd-a7db/2-1 ",
     "a7f6/1-1 ab53/1-3a0 ab70-abbf/1-97d0 ff41-ff5a/1-20 10428-1044f/1-28 104d8-104fb/1-28 ",
     "10597-105a1/1-27 105a3-105b1/1-27 105b3-105b9/1-27 105bb-105bc/1-27 10cc0-10cf2/1-40 ",
     "10d70-10d85/1-20 118c0-118df/1-20 16e60-16e7f/1-20 16ebb-16ed3/1-1b 1e922-1e943/1-22 "]

def foldClassText : String :=
  String.join
    ["41-4a/1+20 4b,6b,212a 4c-52/1+20 53,73,17f 54-5a/1+20 b5,39c,3bc c0-c4/1+20 c5,e5,212b ",
     "c6-d6/1+20 d8-de/1+20 df,1e9e ff,178 100-12e/2+1 132-136/2+1 139-147/2+1 14a-176/2+1 ",
     "179-17d/2+1 180,243 181,253 182-184/2+1 186,254 187,188 189-18a/1+cd 18b,18c 18e,1dd ",
     "18f,259 190,25b 191,192 193,260 194,263 195,1f6 196,269 197,268 198,199 19a,23d 19b,a7dc ",
     "19c,26f 19d,272 19e,220 19f,275 1a0-1a4/2+1 1a6,280 1a7,1a8 1a9,283 1ac,1ad 1ae,288 ",
     "1af,1b0 1b1-1b2/1+d9 1b3-1b5/2+1 1b7,292 1b8,1b9 1bc,1bd 1bf,1f7 1c4,1c5,1c6 1c7,1c8,1c9 ",
     "1ca,1cb,1cc 1cd-1db/2+1 1de-1ee/2+1 1f1,1f2,1f3 1f4,1f5 1f8-21e/2+1 222-232/2+1 23a,2c65 ",
     "23b,23c 23e,2c66 23f-240/1+2a3f 241,242 244,289 245,28c 246-24e/2+1 250,2c6f 251,2c6d ",
     "252,2c70 25c,a7ab 261,a7ac 264,a7cb 265,a78d 266,a7aa 26a,a7ae 26b,2c62 26c,a7ad 271,2c6e ",
     "27d,2c64 282,a7c5 287,a7b1 29d,a7b2 29e,a7b0 345,399,3b9,1fbe 370-372/2+1 376,377 ",
     "37b-37d/1+82 37f,3f3 386,3ac 388-38a/1+25 38c,3cc 38e-38f/1+3f 390,1fd3 391,3b1 ",
     "392,3b2,3d0 393-394/1+20 395,3b5,3f5 396-397/1+20 398,3b8,3d1,3f4 39a,3ba,3f0 ",
     "39b-39d/2+20 39e-39f/1+20 3a0,3c0,3d6 3a1,3c1,3f1 3a3,3c2,3c3 3a4-3a5/1+20 3a6,3c6,3d5 ",
     "3a7-3a8/1+20 3a9,3c9,2126 3aa-3ab/1+20 3b0,1fe3 3cf,3d7 3d8-3ee/2+1 3f2,3f9 3f7,3f8 ",
     "3fa,3fb 400-40f/1+50 410-411/1+20 412,432,1c80 413,433 414,434,1c81 415-41d/1+20 ",
     "41e,43e,1c82 41f-420/1+20 421,441,1c83 422,442,1c84,1c85 423-429/1+20 42a,44a,1c86 ",
     "42b-42f/1+20 460,461 462,463,1c87 464-480/2+1 48a-4be/2+1 4c0,4cf 4c1-4cd/2+1 4d0-52e/2+1 ",
     "531-556/1+30 10a0-10c5/1+1c60 10c7,2d27 10cd,2d2d 10d0-10fa/1+bc0 10fd-10ff/1+bc0 ",
     "13a0-13ef/1+97d0 13f0-13f5/1+8 1c88,a64a,a64b 1c89,1c8a 1d79,a77d 1d7d,2c63 1d8e,a7c6 ",
     "1e00-1e5e/2+1 1e60,1e61,1e9b 1e62-1e94/2+1 1ea0-1efe/2+1 1f00-1f07/1+8 1f10-1f15/1+8 ",
     "1f20-1f27/1+8 1f30-1f37/1+8 1f40-1f45/1+8 1f51-1f57/2+8 1f60-1f67/1+8 1f70-1f71/1+4a ",
     "1f72-1f75/1+56 1f76-1f77/1+64 1f78-1f79/1+80 1f7a-1f7b/1+70 1f7c-1f7d/1+7e 1f80-1f87/1+8 ",
     "1f90-1f97/1+8 1fa0-1fa7/1+8 1fb0-1fb1/1+8 1fb3,1fbc 1fc3,1fcc 1fd0-1fd1/1+8 1fe0-1fe1/1+8 ",
     "1fe5,1fec 1ff3,1ffc 2132,214e 2160-216f/1+10 2183,2184 24b6-24cf/1+1a 2c00-2c2f/1+30 ",
     "2c60,2c61 2c67-2c6b/2+1 2c72,2c73 2c75,2c76 2c80-2ce2/2+1 2ceb-2ced/2+1 2cf2,2cf3 ",
     "a640-a648/2+1 a64c-a66c/2+1 a680-a69a/2+1 a722-a72e/2+1 a732-a76e/2+1 a779-a77b/2+1 ",
     "a77e-a786/2+1 a78b,a78c a790-a792/2+1 a794,a7c4 a796-a7a8/2+1 a7b3,ab53 a7b4-a7c2/2+1 ",
     "a7c7-a7c9/2+1 a7cc-a7da/2+1 a7f5,a7f6 fb05,fb06 ff21-ff3a/1+20 10400-10427/1+28 ",
     "104b0-104d3/1+28 10570-1057a/1+27 1057c-1058a/1+27 1058c-10592/1+27 10594-10595/1+27 ",
     "10c80-10cb2/1+40 10d50-10d65/1+20 118a0-118bf/1+20 16e40-16e5f/1+20 16ea0-16eb8/1+1b ",
     "1e900-1e921/1+22 "]

/-- The case classes of two or more characters, each in ascending order: a word `lo-hi/stride+delta`
stands for the classes of two `{x, x + delta}` for `x` from `lo` to `hi` in steps of `stride`, any
other word for the class of the code points it lists. -/
def foldClasses : Array (List Nat) :=
  ((tableWords foldClassText).toList.flatMap fun word =>
    if word.contains '/' then
      let e := readCaseEntry word
      (List.range ((e.hi - e.lo) / e.stride + 1)).map fun k =>
        [e.lo + k * e.stride, ((e.lo + k * e.stride : Nat) + e.delta).toNat]
    else [(word.splitOn ",").map (hexNumber ·.toList)]).toArray

/-- Each member of a case class of two or more characters, with the place of its class, in
ascending order of members. -/
def foldIndex : Array (Nat × Nat × Nat) :=
  let entries := (foldClasses.toList.zipIdx.flatMap fun (members, i) =>
    members.map fun m => (m, m, i)).toArray
  entries.qsort fun a b => a.1 < b.1

/-- The case class of a character, in ascending order: the character alone when no other
character is equal to it with case ignored. -/
def caseClass (c : Char) : List Char :=
  match labelAt? foldIndex c.toNat with
  | some i => (foldClasses[i]?.getD [c.toNat]).map Char.ofNat
  | none => [c]

end AccessPolicy.CharClass
