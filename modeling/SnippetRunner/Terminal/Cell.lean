import SnippetRunner.Text.CodeRanges

/-!
# Cells

How many cells of a terminal's line a text takes: wide letters and pictures take two, marks on the
letter before and controls none. A joiner makes one picture of two, and a selector makes a
picture of a narrow character.
-/

namespace SnippetRunner.Terminal

open SnippetRunner.Text

/-- Characters that take two cells. -/
def wideRanges : CodeRanges := CodeRanges.ofLines
  ["1100-115f 231a-231b 2329-232a 23e9-23ec 23f0 23f3 25fd-25fe 2614-2615 2630-2637 2648-2653",
   "267f 268a-268f 2693 26a1 26aa-26ab 26bd-26be 26c4-26c5 26ce 26d4 26ea 26f2-26f3 26f5 26fa",
   "26fd 2705 270a-270b 2728 274c 274e 2753-2755 2757 2795-2797 27b0 27bf 2b1b-2b1c 2b50 2b55",
   "2e80-2e99 2e9b-2ef3 2f00-2fd5 2ff0-3029 3030-303e 3041-3096 309b-30ff 3105-312f 3131-318e",
   "3190-31e5 31ef-321e 3220-3247 3250-a48c a490-a4c6 a960-a97c ac00-d7a3 f900-faff fe10-fe19",
   "fe30-fe52 fe54-fe66 fe68-fe6b ff01-ff60 ffe0-ffe6 16fe0-16fe3 16ff2-16ff6 17000-18cd5",
   "18cff-18d1e 18d80-18df2 1aff0-1aff3 1aff5-1affb 1affd-1affe 1b000-1b122 1b132 1b150-1b152",
   "1b155 1b164-1b167 1b170-1b2fb 1d300-1d356 1d360-1d376 1f004 1f0cf 1f18e 1f191-1f19a",
   "1f200-1f202 1f210-1f23b 1f240-1f248 1f250-1f251 1f260-1f265 1f300-1f320 1f32d-1f335",
   "1f337-1f37c 1f37e-1f393 1f3a0-1f3ca 1f3cf-1f3d3 1f3e0-1f3f0 1f3f4 1f3f8-1f3fa 1f400-1f43e",
   "1f440 1f442-1f4fc 1f4ff-1f53d 1f54b-1f54e 1f550-1f567 1f57a 1f595-1f596 1f5a4 1f5fb-1f64f",
   "1f680-1f6c5 1f6cc 1f6d0-1f6d2 1f6d5-1f6d8 1f6dc-1f6df 1f6eb-1f6ec 1f6f4-1f6fc 1f7e0-1f7eb",
   "1f7f0 1f90c-1f93a 1f93c-1f945 1f947-1f9ff 1fa70-1fa7c 1fa80-1fa8a 1fa8e-1fac6 1fac8",
   "1facd-1fadc 1fadf-1faea 1faef-1faf8 20000-2fffd 30000-3fffd"]

/-- Characters that take no cell. -/
def zeroRanges : CodeRanges := CodeRanges.ofLines
  ["0-1f 7f-9f ad 300-36f 483-489 591-5bd 5bf 5c1-5c2 5c4-5c5 5c7 600-605 610-61a 61c 64b-65f",
   "670 6d6-6dd 6df-6e4 6e7-6e8 6ea-6ed 70f 711 730-74a 7a6-7b0 7eb-7f3 7fd 816-819 81b-823",
   "825-827 829-82d 859-85b 890-891 897-89f 8ca-903 93a-93c 93e-94f 951-957 962-963 981-983 9bc",
   "9be-9c4 9c7-9c8 9cb-9cd 9d7 9e2-9e3 9fe a01-a03 a3c a3e-a42 a47-a48 a4b-a4d a51 a70-a71 a75",
   "a81-a83 abc abe-ac5 ac7-ac9 acb-acd ae2-ae3 afa-aff b01-b03 b3c b3e-b44 b47-b48 b4b-b4d",
   "b55-b57 b62-b63 b82 bbe-bc2 bc6-bc8 bca-bcd bd7 c00-c04 c3c c3e-c44 c46-c48 c4a-c4d c55-c56",
   "c62-c63 c81-c83 cbc cbe-cc4 cc6-cc8 cca-ccd cd5-cd6 ce2-ce3 cf3 d00-d03 d3b-d3c d3e-d44",
   "d46-d48 d4a-d4d d57 d62-d63 d81-d83 dca dcf-dd4 dd6 dd8-ddf df2-df3 e31 e34-e3a e47-e4e eb1",
   "eb4-ebc ec8-ece f18-f19 f35 f37 f39 f3e-f3f f71-f84 f86-f87 f8d-f97 f99-fbc fc6 102b-103e",
   "1056-1059 105e-1060 1062-1064 1067-106d 1071-1074 1082-108d 108f 109a-109d 1160-11ff",
   "135d-135f 1712-1715 1732-1734 1752-1753 1772-1773 17b4-17d3 17dd 180b-180f 1885-1886 18a9",
   "1920-192b 1930-193b 1a17-1a1b 1a55-1a5e 1a60-1a7c 1a7f 1ab0-1add 1ae0-1aeb 1b00-1b04",
   "1b34-1b44 1b6b-1b73 1b80-1b82 1ba1-1bad 1be6-1bf3 1c24-1c37 1cd0-1cd2 1cd4-1ce8 1ced 1cf4",
   "1cf7-1cf9 1dc0-1dff 200b-200f 2028-202e 2060-2064 2066-206f 20d0-20f0 2cef-2cf1 2d7f",
   "2de0-2dff 302a-302f 3099-309a a66f-a672 a674-a67d a69e-a69f a6f0-a6f1 a802 a806 a80b",
   "a823-a827 a82c a880-a881 a8b4-a8c5 a8e0-a8f1 a8ff a926-a92d a947-a953 a980-a983 a9b3-a9c0",
   "a9e5 aa29-aa36 aa43 aa4c-aa4d aa7b-aa7d aab0 aab2-aab4 aab7-aab8 aabe-aabf aac1 aaeb-aaef",
   "aaf5-aaf6 abe3-abea abec-abed d7b0-d7ff fb1e fe00-fe0f fe20-fe2f feff fff9-fffb 101fd 102e0",
   "10376-1037a 10a01-10a03 10a05-10a06 10a0c-10a0f 10a38-10a3a 10a3f 10ae5-10ae6 10d24-10d27",
   "10d69-10d6d 10eab-10eac 10efa-10eff 10f46-10f50 10f82-10f85 11000-11002 11038-11046 11070",
   "11073-11074 1107f-11082 110b0-110ba 110bd 110c2 110cd 11100-11102 11127-11134 11145-11146",
   "11173 11180-11182 111b3-111c0 111c9-111cc 111ce-111cf 1122c-11237 1123e 11241 112df-112ea",
   "11300-11303 1133b-1133c 1133e-11344 11347-11348 1134b-1134d 11357 11362-11363 11366-1136c",
   "11370-11374 113b8-113c0 113c2 113c5 113c7-113ca 113cc-113d0 113d2 113e1-113e2 11435-11446",
   "1145e 114b0-114c3 115af-115b5 115b8-115c0 115dc-115dd 11630-11640 116ab-116b7 1171d-1172b",
   "1182c-1183a 11930-11935 11937-11938 1193b-1193e 11940 11942-11943 119d1-119d7 119da-119e0",
   "119e4 11a01-11a0a 11a33-11a39 11a3b-11a3e 11a47 11a51-11a5b 11a8a-11a99 11b60-11b67",
   "11c2f-11c36 11c38-11c3f 11c92-11ca7 11ca9-11cb6 11d31-11d36 11d3a 11d3c-11d3d 11d3f-11d45",
   "11d47 11d8a-11d8e 11d90-11d91 11d93-11d97 11ef3-11ef6 11f00-11f01 11f03 11f34-11f3a",
   "11f3e-11f42 11f5a 13430-13440 13447-13455 1611e-1612f 16af0-16af4 16b30-16b36 16f4f",
   "16f51-16f87 16f8f-16f92 16fe4 16ff0-16ff1 1bc9d-1bc9e 1bca0-1bca3 1cf00-1cf2d 1cf30-1cf46",
   "1d165-1d169 1d16d-1d182 1d185-1d18b 1d1aa-1d1ad 1d242-1d244 1da00-1da36 1da3b-1da6c 1da75",
   "1da84 1da9b-1da9f 1daa1-1daaf 1e000-1e006 1e008-1e018 1e01b-1e021 1e023-1e024 1e026-1e02a",
   "1e08f 1e130-1e136 1e2ae 1e2ec-1e2ef 1e4ec-1e4ef 1e5ee-1e5ef 1e6e3 1e6e6 1e6ee-1e6ef 1e6f5",
   "1e8d0-1e8d6 1e944-1e94a 1f3fb-1f3ff e0001 e0020-e007f e0100-e01ef"]

/-- Narrow characters that a selector after them makes wide. -/
def widenedRanges : CodeRanges := CodeRanges.ofLines
  ["23 2a 30-39 a9 ae 203c 2049 2122 2139 2194-2199 21a9-21aa 2328 23cf 23ed-23ef 23f1-23f2",
   "23f8-23fa 24c2 25aa-25ab 25b6 25c0 25fb-25fc 2600-2604 260e 2611 2618 261d 2620 2622-2623",
   "2626 262a 262e-262f 2638-263a 2640 2642 265f-2660 2663 2665-2666 2668 267b 267e 2692",
   "2694-2697 2699 269b-269c 26a0 26a7 26b0-26b1 26c8 26cf 26d1 26d3 26e9 26f0-26f1 26f4",
   "26f7-26f9 2702 2708-2709 270c-270d 270f 2712 2714 2716 271d 2721 2733-2734 2744 2747",
   "2763-2764 27a1 2934-2935 2b05-2b07 1f170-1f171 1f17e-1f17f 1f321 1f324-1f32c 1f336 1f37d",
   "1f396-1f397 1f399-1f39b 1f39e-1f39f 1f3cb-1f3ce 1f3d4-1f3df 1f3f3 1f3f5 1f3f7 1f43f 1f441",
   "1f4fd 1f549-1f54a 1f56f-1f570 1f573-1f579 1f587 1f58a-1f58d 1f590 1f5a5 1f5a8 1f5b1-1f5b2",
   "1f5bc 1f5c2-1f5c4 1f5d1-1f5d3 1f5dc-1f5de 1f5e1 1f5e3 1f5e8 1f5ef 1f5f3 1f5fa 1f6cb",
   "1f6cd-1f6cf 1f6e0-1f6e5 1f6e9 1f6f0 1f6f3"]

/-- The character that joins the pictures on both sides of it. -/
def joiner : Char := '\u200d'

/-- The character that makes a picture of the one before. -/
def selector : Char := '\ufe0f'

/-- The cells that a character takes by itself. -/
def charCells (c : Char) : Nat :=
  if ' ' ≤ c ∧ c ≤ '~' then 1
  else if zeroRanges.contains c then 0
  else if wideRanges.contains c then 2
  else 1

/-- One cell more for a selector after the last character that takes one. -/
def widening (last : Option Char) : Nat := if last.any widenedRanges.contains then 1 else 0

/-- The cells that characters take; `last` is the last one before them that takes cells, and
`sum` the cells before. -/
def cellsFrom (last : Option Char) (sum : Nat) : List Char → Nat
  | [] => sum
  | c :: rest =>
    if c == joiner then
      match rest with
      | [] => sum
      | _ :: rest => cellsFrom last sum rest
    else if c == selector then cellsFrom none (sum + widening last) rest
    else
      let n := charCells c
      cellsFrom (if n = 0 then last else some c) (sum + n) rest

/-- The cells that characters take. -/
def cells (cs : List Char) : Nat := cellsFrom none 0 cs

/-- Characters that are shown as one, with the cells that they take. -/
structure Cluster where
  chars : List Char
  cells : Nat

/-- Adds characters that take up some more cells. -/
def Cluster.extend (k : Cluster) (more : List Char) (n : Nat := 0) : Cluster :=
  { chars := k.chars ++ more, cells := k.cells + n }

/-- The clusters of characters after those that are found, the last one first; `last` is the last
character that takes cells. -/
def clustersFrom (last : Option Char) (found : List Cluster) : List Char → List Cluster
  | [] => found.reverse
  | c :: rest =>
    match found with
    | [] =>
      let n := if c == joiner || c == selector then 0 else charCells c
      clustersFrom (if n = 0 then last else some c) [⟨[c], n⟩] rest
    | before :: found =>
      if c == joiner then
        match rest with
        | [] => clustersFrom last (before.extend [c] :: found) []
        | d :: rest => clustersFrom last (before.extend [c, d] :: found) rest
      else if c == selector then
        let n := widening last
        clustersFrom (if n = 0 then last else none) (before.extend [c] n :: found) rest
      else
        let n := charCells c
        if n = 0 then clustersFrom last (before.extend [c] :: found) rest
        else clustersFrom (some c) (⟨[c], n⟩ :: before :: found) rest

/-- The clusters of characters. -/
def clusters (cs : List Char) : List Cluster := clustersFrom none [] cs

/-- The characters of clusters, as far as they fit into a number of cells; half a wide one becomes
a space. -/
def cropClusters : Nat → List Cluster → List Char
  | _, [] => []
  | room, k :: rest =>
    if k.cells ≤ room then k.chars ++ cropClusters (room - k.cells) rest
    else if room = 0 then []
    else [' ']

/-- As many characters as fit into a number of cells. -/
def crop (room : Nat) (cs : List Char) : List Char :=
  if cells cs ≤ room then cs else cropClusters room (clusters cs)

/-- Characters with spaces after them up to a number of cells. -/
def padRight (width : Nat) (cs : List Char) : List Char :=
  cs ++ List.replicate (width - cells cs) ' '

/-- Characters between spaces; of an odd number of spaces more stand after them. -/
def center (width : Nat) (fill : Char) (cs : List Char) : List Char :=
  let excess := width - cells cs
  List.replicate (excess / 2) fill ++ cs ++ List.replicate (excess - excess / 2) fill

end SnippetRunner.Terminal
