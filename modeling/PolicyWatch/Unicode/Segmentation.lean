import PolicyWatch.Unicode.RangeText

/-!
# Segmentation classes

The ranges of the classes by which text is cut into grapheme clusters, words
and sentences, under their names in lower case and without separators.
-/

namespace PolicyWatch.Unicode

def graphemeClusterBreaks : List NamedRanges :=
  [
    ⟨["cn", "control"],
      "0-9 b-c e-1f 7f-9f ad 61c 180e 200b 200e-200f 2028-202e 2060-206f feff fff0-fffb
      13430-1343f 1bca0-1bca3 1d173-1d17a e0000-e001f e0080-e00ff e01f0-e0fff"⟩,
    ⟨["cr"],
      "d"⟩,
    ⟨["ex", "extend"],
      "300-36f 483-489 591-5bd 5bf 5c1-5c2 5c4-5c5 5c7 610-61a 64b-65f 670 6d6-6dc
      6df-6e4 6e7-6e8 6ea-6ed 711 730-74a 7a6-7b0 7eb-7f3 7fd 816-819 81b-823 825-827
      829-82d 859-85b 898-89f 8ca-8e1 8e3-902 93a 93c 941-948 94d 951-957 962-963 981
      9bc 9be 9c1-9c4 9cd 9d7 9e2-9e3 9fe a01-a02 a3c a41-a42 a47-a48 a4b-a4d a51
      a70-a71 a75 a81-a82 abc ac1-ac5 ac7-ac8 acd ae2-ae3 afa-aff b01 b3c b3e-b3f
      b41-b44 b4d b55-b57 b62-b63 b82 bbe bc0 bcd bd7 c00 c04 c3c c3e-c40 c46-c48
      c4a-c4d c55-c56 c62-c63 c81 cbc cbf cc2 cc6 ccc-ccd cd5-cd6 ce2-ce3 d00-d01
      d3b-d3c d3e d41-d44 d4d d57 d62-d63 d81 dca dcf dd2-dd4 dd6 ddf e31 e34-e3a
      e47-e4e eb1 eb4-ebc ec8-ece f18-f19 f35 f37 f39 f71-f7e f80-f84 f86-f87 f8d-f97
      f99-fbc fc6 102d-1030 1032-1037 1039-103a 103d-103e 1058-1059 105e-1060 1071-1074
      1082 1085-1086 108d 109d 135d-135f 1712-1714 1732-1733 1752-1753 1772-1773
      17b4-17b5 17b7-17bd 17c6 17c9-17d3 17dd 180b-180d 180f 1885-1886 18a9 1920-1922
      1927-1928 1932 1939-193b 1a17-1a18 1a1b 1a56 1a58-1a5e 1a60 1a62 1a65-1a6c
      1a73-1a7c 1a7f 1ab0-1ace 1b00-1b03 1b34-1b3a 1b3c 1b42 1b6b-1b73 1b80-1b81
      1ba2-1ba5 1ba8-1ba9 1bab-1bad 1be6 1be8-1be9 1bed 1bef-1bf1 1c2c-1c33 1c36-1c37
      1cd0-1cd2 1cd4-1ce0 1ce2-1ce8 1ced 1cf4 1cf8-1cf9 1dc0-1dff 200c 20d0-20f0
      2cef-2cf1 2d7f 2de0-2dff 302a-302f 3099-309a a66f-a672 a674-a67d a69e-a69f
      a6f0-a6f1 a802 a806 a80b a825-a826 a82c a8c4-a8c5 a8e0-a8f1 a8ff a926-a92d
      a947-a951 a980-a982 a9b3 a9b6-a9b9 a9bc-a9bd a9e5 aa29-aa2e aa31-aa32 aa35-aa36
      aa43 aa4c aa7c aab0 aab2-aab4 aab7-aab8 aabe-aabf aac1 aaec-aaed aaf6 abe5 abe8
      abed fb1e fe00-fe0f fe20-fe2f ff9e-ff9f 101fd 102e0 10376-1037a 10a01-10a03
      10a05-10a06 10a0c-10a0f 10a38-10a3a 10a3f 10ae5-10ae6 10d24-10d27 10eab-10eac
      10efd-10eff 10f46-10f50 10f82-10f85 11001 11038-11046 11070 11073-11074
      1107f-11081 110b3-110b6 110b9-110ba 110c2 11100-11102 11127-1112b 1112d-11134
      11173 11180-11181 111b6-111be 111c9-111cc 111cf 1122f-11231 11234 11236-11237
      1123e 11241 112df 112e3-112ea 11300-11301 1133b-1133c 1133e 11340 11357
      11366-1136c 11370-11374 11438-1143f 11442-11444 11446 1145e 114b0 114b3-114b8
      114ba 114bd 114bf-114c0 114c2-114c3 115af 115b2-115b5 115bc-115bd 115bf-115c0
      115dc-115dd 11633-1163a 1163d 1163f-11640 116ab 116ad 116b0-116b5 116b7
      1171d-1171f 11722-11725 11727-1172b 1182f-11837 11839-1183a 11930 1193b-1193c
      1193e 11943 119d4-119d7 119da-119db 119e0 11a01-11a0a 11a33-11a38 11a3b-11a3e
      11a47 11a51-11a56 11a59-11a5b 11a8a-11a96 11a98-11a99 11c30-11c36 11c38-11c3d
      11c3f 11c92-11ca7 11caa-11cb0 11cb2-11cb3 11cb5-11cb6 11d31-11d36 11d3a
      11d3c-11d3d 11d3f-11d45 11d47 11d90-11d91 11d95 11d97 11ef3-11ef4 11f00-11f01
      11f36-11f3a 11f40 11f42 13440 13447-13455 16af0-16af4 16b30-16b36 16f4f
      16f8f-16f92 16fe4 1bc9d-1bc9e 1cf00-1cf2d 1cf30-1cf46 1d165 1d167-1d169
      1d16e-1d172 1d17b-1d182 1d185-1d18b 1d1aa-1d1ad 1d242-1d244 1da00-1da36
      1da3b-1da6c 1da75 1da84 1da9b-1da9f 1daa1-1daaf 1e000-1e006 1e008-1e018
      1e01b-1e021 1e023-1e024 1e026-1e02a 1e08f 1e130-1e136 1e2ae 1e2ec-1e2ef
      1e4ec-1e4ef 1e8d0-1e8d6 1e944-1e94a 1f3fb-1f3ff e0020-e007f e0100-e01ef"⟩,
    ⟨["l"],
      "1100-115f a960-a97c"⟩,
    ⟨["lf"],
      "a"⟩,
    ⟨["lv"],
      "ac00 ac1c ac38 ac54 ac70 ac8c aca8 acc4 ace0 acfc ad18 ad34 ad50 ad6c ad88 ada4
      adc0 addc adf8 ae14 ae30 ae4c ae68 ae84 aea0 aebc aed8 aef4 af10 af2c af48 af64
      af80 af9c afb8 afd4 aff0 b00c b028 b044 b060 b07c b098 b0b4 b0d0 b0ec b108 b124
      b140 b15c b178 b194 b1b0 b1cc b1e8 b204 b220 b23c b258 b274 b290 b2ac b2c8 b2e4
      b300 b31c b338 b354 b370 b38c b3a8 b3c4 b3e0 b3fc b418 b434 b450 b46c b488 b4a4
      b4c0 b4dc b4f8 b514 b530 b54c b568 b584 b5a0 b5bc b5d8 b5f4 b610 b62c b648 b664
      b680 b69c b6b8 b6d4 b6f0 b70c b728 b744 b760 b77c b798 b7b4 b7d0 b7ec b808 b824
      b840 b85c b878 b894 b8b0 b8cc b8e8 b904 b920 b93c b958 b974 b990 b9ac b9c8 b9e4
      ba00 ba1c ba38 ba54 ba70 ba8c baa8 bac4 bae0 bafc bb18 bb34 bb50 bb6c bb88 bba4
      bbc0 bbdc bbf8 bc14 bc30 bc4c bc68 bc84 bca0 bcbc bcd8 bcf4 bd10 bd2c bd48 bd64
      bd80 bd9c bdb8 bdd4 bdf0 be0c be28 be44 be60 be7c be98 beb4 bed0 beec bf08 bf24
      bf40 bf5c bf78 bf94 bfb0 bfcc bfe8 c004 c020 c03c c058 c074 c090 c0ac c0c8 c0e4
      c100 c11c c138 c154 c170 c18c c1a8 c1c4 c1e0 c1fc c218 c234 c250 c26c c288 c2a4
      c2c0 c2dc c2f8 c314 c330 c34c c368 c384 c3a0 c3bc c3d8 c3f4 c410 c42c c448 c464
      c480 c49c c4b8 c4d4 c4f0 c50c c528 c544 c560 c57c c598 c5b4 c5d0 c5ec c608 c624
      c640 c65c c678 c694 c6b0 c6cc c6e8 c704 c720 c73c c758 c774 c790 c7ac c7c8 c7e4
      c800 c81c c838 c854 c870 c88c c8a8 c8c4 c8e0 c8fc c918 c934 c950 c96c c988 c9a4
      c9c0 c9dc c9f8 ca14 ca30 ca4c ca68 ca84 caa0 cabc cad8 caf4 cb10 cb2c cb48 cb64
      cb80 cb9c cbb8 cbd4 cbf0 cc0c cc28 cc44 cc60 cc7c cc98 ccb4 ccd0 ccec cd08 cd24
      cd40 cd5c cd78 cd94 cdb0 cdcc cde8 ce04 ce20 ce3c ce58 ce74 ce90 ceac cec8 cee4
      cf00 cf1c cf38 cf54 cf70 cf8c cfa8 cfc4 cfe0 cffc d018 d034 d050 d06c d088 d0a4
      d0c0 d0dc d0f8 d114 d130 d14c d168 d184 d1a0 d1bc d1d8 d1f4 d210 d22c d248 d264
      d280 d29c d2b8 d2d4 d2f0 d30c d328 d344 d360 d37c d398 d3b4 d3d0 d3ec d408 d424
      d440 d45c d478 d494 d4b0 d4cc d4e8 d504 d520 d53c d558 d574 d590 d5ac d5c8 d5e4
      d600 d61c d638 d654 d670 d68c d6a8 d6c4 d6e0 d6fc d718 d734 d750 d76c d788"⟩,
    ⟨["lvt"],
      "ac01-ac1b ac1d-ac37 ac39-ac53 ac55-ac6f ac71-ac8b ac8d-aca7 aca9-acc3 acc5-acdf
      ace1-acfb acfd-ad17 ad19-ad33 ad35-ad4f ad51-ad6b ad6d-ad87 ad89-ada3 ada5-adbf
      adc1-addb addd-adf7 adf9-ae13 ae15-ae2f ae31-ae4b ae4d-ae67 ae69-ae83 ae85-ae9f
      aea1-aebb aebd-aed7 aed9-aef3 aef5-af0f af11-af2b af2d-af47 af49-af63 af65-af7f
      af81-af9b af9d-afb7 afb9-afd3 afd5-afef aff1-b00b b00d-b027 b029-b043 b045-b05f
      b061-b07b b07d-b097 b099-b0b3 b0b5-b0cf b0d1-b0eb b0ed-b107 b109-b123 b125-b13f
      b141-b15b b15d-b177 b179-b193 b195-b1af b1b1-b1cb b1cd-b1e7 b1e9-b203 b205-b21f
      b221-b23b b23d-b257 b259-b273 b275-b28f b291-b2ab b2ad-b2c7 b2c9-b2e3 b2e5-b2ff
      b301-b31b b31d-b337 b339-b353 b355-b36f b371-b38b b38d-b3a7 b3a9-b3c3 b3c5-b3df
      b3e1-b3fb b3fd-b417 b419-b433 b435-b44f b451-b46b b46d-b487 b489-b4a3 b4a5-b4bf
      b4c1-b4db b4dd-b4f7 b4f9-b513 b515-b52f b531-b54b b54d-b567 b569-b583 b585-b59f
      b5a1-b5bb b5bd-b5d7 b5d9-b5f3 b5f5-b60f b611-b62b b62d-b647 b649-b663 b665-b67f
      b681-b69b b69d-b6b7 b6b9-b6d3 b6d5-b6ef b6f1-b70b b70d-b727 b729-b743 b745-b75f
      b761-b77b b77d-b797 b799-b7b3 b7b5-b7cf b7d1-b7eb b7ed-b807 b809-b823 b825-b83f
      b841-b85b b85d-b877 b879-b893 b895-b8af b8b1-b8cb b8cd-b8e7 b8e9-b903 b905-b91f
      b921-b93b b93d-b957 b959-b973 b975-b98f b991-b9ab b9ad-b9c7 b9c9-b9e3 b9e5-b9ff
      ba01-ba1b ba1d-ba37 ba39-ba53 ba55-ba6f ba71-ba8b ba8d-baa7 baa9-bac3 bac5-badf
      bae1-bafb bafd-bb17 bb19-bb33 bb35-bb4f bb51-bb6b bb6d-bb87 bb89-bba3 bba5-bbbf
      bbc1-bbdb bbdd-bbf7 bbf9-bc13 bc15-bc2f bc31-bc4b bc4d-bc67 bc69-bc83 bc85-bc9f
      bca1-bcbb bcbd-bcd7 bcd9-bcf3 bcf5-bd0f bd11-bd2b bd2d-bd47 bd49-bd63 bd65-bd7f
      bd81-bd9b bd9d-bdb7 bdb9-bdd3 bdd5-bdef bdf1-be0b be0d-be27 be29-be43 be45-be5f
      be61-be7b be7d-be97 be99-beb3 beb5-becf bed1-beeb beed-bf07 bf09-bf23 bf25-bf3f
      bf41-bf5b bf5d-bf77 bf79-bf93 bf95-bfaf bfb1-bfcb bfcd-bfe7 bfe9-c003 c005-c01f
      c021-c03b c03d-c057 c059-c073 c075-c08f c091-c0ab c0ad-c0c7 c0c9-c0e3 c0e5-c0ff
      c101-c11b c11d-c137 c139-c153 c155-c16f c171-c18b c18d-c1a7 c1a9-c1c3 c1c5-c1df
      c1e1-c1fb c1fd-c217 c219-c233 c235-c24f c251-c26b c26d-c287 c289-c2a3 c2a5-c2bf
      c2c1-c2db c2dd-c2f7 c2f9-c313 c315-c32f c331-c34b c34d-c367 c369-c383 c385-c39f
      c3a1-c3bb c3bd-c3d7 c3d9-c3f3 c3f5-c40f c411-c42b c42d-c447 c449-c463 c465-c47f
      c481-c49b c49d-c4b7 c4b9-c4d3 c4d5-c4ef c4f1-c50b c50d-c527 c529-c543 c545-c55f
      c561-c57b c57d-c597 c599-c5b3 c5b5-c5cf c5d1-c5eb c5ed-c607 c609-c623 c625-c63f
      c641-c65b c65d-c677 c679-c693 c695-c6af c6b1-c6cb c6cd-c6e7 c6e9-c703 c705-c71f
      c721-c73b c73d-c757 c759-c773 c775-c78f c791-c7ab c7ad-c7c7 c7c9-c7e3 c7e5-c7ff
      c801-c81b c81d-c837 c839-c853 c855-c86f c871-c88b c88d-c8a7 c8a9-c8c3 c8c5-c8df
      c8e1-c8fb c8fd-c917 c919-c933 c935-c94f c951-c96b c96d-c987 c989-c9a3 c9a5-c9bf
      c9c1-c9db c9dd-c9f7 c9f9-ca13 ca15-ca2f ca31-ca4b ca4d-ca67 ca69-ca83 ca85-ca9f
      caa1-cabb cabd-cad7 cad9-caf3 caf5-cb0f cb11-cb2b cb2d-cb47 cb49-cb63 cb65-cb7f
      cb81-cb9b cb9d-cbb7 cbb9-cbd3 cbd5-cbef cbf1-cc0b cc0d-cc27 cc29-cc43 cc45-cc5f
      cc61-cc7b cc7d-cc97 cc99-ccb3 ccb5-cccf ccd1-cceb cced-cd07 cd09-cd23 cd25-cd3f
      cd41-cd5b cd5d-cd77 cd79-cd93 cd95-cdaf cdb1-cdcb cdcd-cde7 cde9-ce03 ce05-ce1f
      ce21-ce3b ce3d-ce57 ce59-ce73 ce75-ce8f ce91-ceab cead-cec7 cec9-cee3 cee5-ceff
      cf01-cf1b cf1d-cf37 cf39-cf53 cf55-cf6f cf71-cf8b cf8d-cfa7 cfa9-cfc3 cfc5-cfdf
      cfe1-cffb cffd-d017 d019-d033 d035-d04f d051-d06b d06d-d087 d089-d0a3 d0a5-d0bf
      d0c1-d0db d0dd-d0f7 d0f9-d113 d115-d12f d131-d14b d14d-d167 d169-d183 d185-d19f
      d1a1-d1bb d1bd-d1d7 d1d9-d1f3 d1f5-d20f d211-d22b d22d-d247 d249-d263 d265-d27f
      d281-d29b d29d-d2b7 d2b9-d2d3 d2d5-d2ef d2f1-d30b d30d-d327 d329-d343 d345-d35f
      d361-d37b d37d-d397 d399-d3b3 d3b5-d3cf d3d1-d3eb d3ed-d407 d409-d423 d425-d43f
      d441-d45b d45d-d477 d479-d493 d495-d4af d4b1-d4cb d4cd-d4e7 d4e9-d503 d505-d51f
      d521-d53b d53d-d557 d559-d573 d575-d58f d591-d5ab d5ad-d5c7 d5c9-d5e3 d5e5-d5ff
      d601-d61b d61d-d637 d639-d653 d655-d66f d671-d68b d68d-d6a7 d6a9-d6c3 d6c5-d6df
      d6e1-d6fb d6fd-d717 d719-d733 d735-d74f d751-d76b d76d-d787 d789-d7a3"⟩,
    ⟨["pp", "prepend"],
      "600-605 6dd 70f 890-891 8e2 d4e 110bd 110cd 111c2-111c3 1193f 11941 11a3a
      11a84-11a89 11d46 11f02"⟩,
    ⟨["ri", "regionalindicator"],
      "1f1e6-1f1ff"⟩,
    ⟨["sm", "spacingmark"],
      "903 93b 93e-940 949-94c 94e-94f 982-983 9bf-9c0 9c7-9c8 9cb-9cc a03 a3e-a40 a83
      abe-ac0 ac9 acb-acc b02-b03 b40 b47-b48 b4b-b4c bbf bc1-bc2 bc6-bc8 bca-bcc
      c01-c03 c41-c44 c82-c83 cbe cc0-cc1 cc3-cc4 cc7-cc8 cca-ccb cf3 d02-d03 d3f-d40
      d46-d48 d4a-d4c d82-d83 dd0-dd1 dd8-dde df2-df3 e33 eb3 f3e-f3f f7f 1031 103b-103c
      1056-1057 1084 1715 1734 17b6 17be-17c5 17c7-17c8 1923-1926 1929-192b 1930-1931
      1933-1938 1a19-1a1a 1a55 1a57 1a6d-1a72 1b04 1b3b 1b3d-1b41 1b43-1b44 1b82 1ba1
      1ba6-1ba7 1baa 1be7 1bea-1bec 1bee 1bf2-1bf3 1c24-1c2b 1c34-1c35 1ce1 1cf7
      a823-a824 a827 a880-a881 a8b4-a8c3 a952-a953 a983 a9b4-a9b5 a9ba-a9bb a9be-a9c0
      aa2f-aa30 aa33-aa34 aa4d aaeb aaee-aaef aaf5 abe3-abe4 abe6-abe7 abe9-abea abec
      11000 11002 11082 110b0-110b2 110b7-110b8 1112c 11145-11146 11182 111b3-111b5
      111bf-111c0 111ce 1122c-1122e 11232-11233 11235 112e0-112e2 11302-11303 1133f
      11341-11344 11347-11348 1134b-1134d 11362-11363 11435-11437 11440-11441 11445
      114b1-114b2 114b9 114bb-114bc 114be 114c1 115b0-115b1 115b8-115bb 115be
      11630-11632 1163b-1163c 1163e 116ac 116ae-116af 116b6 11726 1182c-1182e 11838
      11931-11935 11937-11938 1193d 11940 11942 119d1-119d3 119dc-119df 119e4 11a39
      11a57-11a58 11a97 11c2f 11c3e 11ca9 11cb1 11cb4 11d8a-11d8e 11d93-11d94 11d96
      11ef5-11ef6 11f03 11f34-11f35 11f3e-11f3f 11f41 16f51-16f87 16ff0-16ff1 1d166
      1d16d"⟩,
    ⟨["t"],
      "11a8-11ff d7cb-d7fb"⟩,
    ⟨["v"],
      "1160-11a7 d7b0-d7c6"⟩,
    ⟨["zwj"],
      "200d"⟩
  ]

def wordBreaks : List NamedRanges :=
  [
    ⟨["cr"],
      "d"⟩,
    ⟨["dq", "doublequote"],
      "22"⟩,
    ⟨["ex", "extendnumlet"],
      "5f 202f 203f-2040 2054 fe33-fe34 fe4d-fe4f ff3f"⟩,
    ⟨["extend"],
      "300-36f 483-489 591-5bd 5bf 5c1-5c2 5c4-5c5 5c7 610-61a 64b-65f 670 6d6-6dc
      6df-6e4 6e7-6e8 6ea-6ed 711 730-74a 7a6-7b0 7eb-7f3 7fd 816-819 81b-823 825-827
      829-82d 859-85b 898-89f 8ca-8e1 8e3-903 93a-93c 93e-94f 951-957 962-963 981-983
      9bc 9be-9c4 9c7-9c8 9cb-9cd 9d7 9e2-9e3 9fe a01-a03 a3c a3e-a42 a47-a48 a4b-a4d
      a51 a70-a71 a75 a81-a83 abc abe-ac5 ac7-ac9 acb-acd ae2-ae3 afa-aff b01-b03 b3c
      b3e-b44 b47-b48 b4b-b4d b55-b57 b62-b63 b82 bbe-bc2 bc6-bc8 bca-bcd bd7 c00-c04
      c3c c3e-c44 c46-c48 c4a-c4d c55-c56 c62-c63 c81-c83 cbc cbe-cc4 cc6-cc8 cca-ccd
      cd5-cd6 ce2-ce3 cf3 d00-d03 d3b-d3c d3e-d44 d46-d48 d4a-d4d d57 d62-d63 d81-d83
      dca dcf-dd4 dd6 dd8-ddf df2-df3 e31 e34-e3a e47-e4e eb1 eb4-ebc ec8-ece f18-f19
      f35 f37 f39 f3e-f3f f71-f84 f86-f87 f8d-f97 f99-fbc fc6 102b-103e 1056-1059
      105e-1060 1062-1064 1067-106d 1071-1074 1082-108d 108f 109a-109d 135d-135f
      1712-1715 1732-1734 1752-1753 1772-1773 17b4-17d3 17dd 180b-180d 180f 1885-1886
      18a9 1920-192b 1930-193b 1a17-1a1b 1a55-1a5e 1a60-1a7c 1a7f 1ab0-1ace 1b00-1b04
      1b34-1b44 1b6b-1b73 1b80-1b82 1ba1-1bad 1be6-1bf3 1c24-1c37 1cd0-1cd2 1cd4-1ce8
      1ced 1cf4 1cf7-1cf9 1dc0-1dff 200c 20d0-20f0 2cef-2cf1 2d7f 2de0-2dff 302a-302f
      3099-309a a66f-a672 a674-a67d a69e-a69f a6f0-a6f1 a802 a806 a80b a823-a827 a82c
      a880-a881 a8b4-a8c5 a8e0-a8f1 a8ff a926-a92d a947-a953 a980-a983 a9b3-a9c0 a9e5
      aa29-aa36 aa43 aa4c-aa4d aa7b-aa7d aab0 aab2-aab4 aab7-aab8 aabe-aabf aac1
      aaeb-aaef aaf5-aaf6 abe3-abea abec-abed fb1e fe00-fe0f fe20-fe2f ff9e-ff9f 101fd
      102e0 10376-1037a 10a01-10a03 10a05-10a06 10a0c-10a0f 10a38-10a3a 10a3f
      10ae5-10ae6 10d24-10d27 10eab-10eac 10efd-10eff 10f46-10f50 10f82-10f85
      11000-11002 11038-11046 11070 11073-11074 1107f-11082 110b0-110ba 110c2
      11100-11102 11127-11134 11145-11146 11173 11180-11182 111b3-111c0 111c9-111cc
      111ce-111cf 1122c-11237 1123e 11241 112df-112ea 11300-11303 1133b-1133c
      1133e-11344 11347-11348 1134b-1134d 11357 11362-11363 11366-1136c 11370-11374
      11435-11446 1145e 114b0-114c3 115af-115b5 115b8-115c0 115dc-115dd 11630-11640
      116ab-116b7 1171d-1172b 1182c-1183a 11930-11935 11937-11938 1193b-1193e 11940
      11942-11943 119d1-119d7 119da-119e0 119e4 11a01-11a0a 11a33-11a39 11a3b-11a3e
      11a47 11a51-11a5b 11a8a-11a99 11c2f-11c36 11c38-11c3f 11c92-11ca7 11ca9-11cb6
      11d31-11d36 11d3a 11d3c-11d3d 11d3f-11d45 11d47 11d8a-11d8e 11d90-11d91
      11d93-11d97 11ef3-11ef6 11f00-11f01 11f03 11f34-11f3a 11f3e-11f42 13440
      13447-13455 16af0-16af4 16b30-16b36 16f4f 16f51-16f87 16f8f-16f92 16fe4
      16ff0-16ff1 1bc9d-1bc9e 1cf00-1cf2d 1cf30-1cf46 1d165-1d169 1d16d-1d172
      1d17b-1d182 1d185-1d18b 1d1aa-1d1ad 1d242-1d244 1da00-1da36 1da3b-1da6c 1da75
      1da84 1da9b-1da9f 1daa1-1daaf 1e000-1e006 1e008-1e018 1e01b-1e021 1e023-1e024
      1e026-1e02a 1e08f 1e130-1e136 1e2ae 1e2ec-1e2ef 1e4ec-1e4ef 1e8d0-1e8d6
      1e944-1e94a 1f3fb-1f3ff e0020-e007f e0100-e01ef"⟩,
    ⟨["fo", "format"],
      "ad 600-605 61c 6dd 70f 890-891 8e2 180e 200e-200f 202a-202e 2060-2064 2066-206f
      feff fff9-fffb 110bd 110cd 13430-1343f 1bca0-1bca3 1d173-1d17a e0001"⟩,
    ⟨["hl", "hebrewletter"],
      "5d0-5ea 5ef-5f2 fb1d fb1f-fb28 fb2a-fb36 fb38-fb3c fb3e fb40-fb41 fb43-fb44
      fb46-fb4f"⟩,
    ⟨["ka", "katakana"],
      "3031-3035 309b-309c 30a0-30fa 30fc-30ff 31f0-31ff 32d0-32fe 3300-3357 ff66-ff9d
      1aff0-1aff3 1aff5-1affb 1affd-1affe 1b000 1b120-1b122 1b155 1b164-1b167"⟩,
    ⟨["le", "aletter"],
      "41-5a 61-7a aa b5 ba c0-d6 d8-f6 f8-2d7 2de-2ff 370-374 376-377 37a-37d 37f 386
      388-38a 38c 38e-3a1 3a3-3f5 3f7-481 48a-52f 531-556 559-55c 55e 560-588 58a 5f3
      620-64a 66e-66f 671-6d3 6d5 6e5-6e6 6ee-6ef 6fa-6fc 6ff 710 712-72f 74d-7a5 7b1
      7ca-7ea 7f4-7f5 7fa 800-815 81a 824 828 840-858 860-86a 870-887 889-88e 8a0-8c9
      904-939 93d 950 958-961 971-980 985-98c 98f-990 993-9a8 9aa-9b0 9b2 9b6-9b9 9bd
      9ce 9dc-9dd 9df-9e1 9f0-9f1 9fc a05-a0a a0f-a10 a13-a28 a2a-a30 a32-a33 a35-a36
      a38-a39 a59-a5c a5e a72-a74 a85-a8d a8f-a91 a93-aa8 aaa-ab0 ab2-ab3 ab5-ab9 abd
      ad0 ae0-ae1 af9 b05-b0c b0f-b10 b13-b28 b2a-b30 b32-b33 b35-b39 b3d b5c-b5d
      b5f-b61 b71 b83 b85-b8a b8e-b90 b92-b95 b99-b9a b9c b9e-b9f ba3-ba4 ba8-baa
      bae-bb9 bd0 c05-c0c c0e-c10 c12-c28 c2a-c39 c3d c58-c5a c5d c60-c61 c80 c85-c8c
      c8e-c90 c92-ca8 caa-cb3 cb5-cb9 cbd cdd-cde ce0-ce1 cf1-cf2 d04-d0c d0e-d10
      d12-d3a d3d d4e d54-d56 d5f-d61 d7a-d7f d85-d96 d9a-db1 db3-dbb dbd dc0-dc6 f00
      f40-f47 f49-f6c f88-f8c 10a0-10c5 10c7 10cd 10d0-10fa 10fc-1248 124a-124d
      1250-1256 1258 125a-125d 1260-1288 128a-128d 1290-12b0 12b2-12b5 12b8-12be 12c0
      12c2-12c5 12c8-12d6 12d8-1310 1312-1315 1318-135a 1380-138f 13a0-13f5 13f8-13fd
      1401-166c 166f-167f 1681-169a 16a0-16ea 16ee-16f8 1700-1711 171f-1731 1740-1751
      1760-176c 176e-1770 1820-1878 1880-1884 1887-18a8 18aa 18b0-18f5 1900-191e
      1a00-1a16 1b05-1b33 1b45-1b4c 1b83-1ba0 1bae-1baf 1bba-1be5 1c00-1c23 1c4d-1c4f
      1c5a-1c7d 1c80-1c88 1c90-1cba 1cbd-1cbf 1ce9-1cec 1cee-1cf3 1cf5-1cf6 1cfa
      1d00-1dbf 1e00-1f15 1f18-1f1d 1f20-1f45 1f48-1f4d 1f50-1f57 1f59 1f5b 1f5d
      1f5f-1f7d 1f80-1fb4 1fb6-1fbc 1fbe 1fc2-1fc4 1fc6-1fcc 1fd0-1fd3 1fd6-1fdb
      1fe0-1fec 1ff2-1ff4 1ff6-1ffc 2071 207f 2090-209c 2102 2107 210a-2113 2115
      2119-211d 2124 2126 2128 212a-212d 212f-2139 213c-213f 2145-2149 214e 2160-2188
      24b6-24e9 2c00-2ce4 2ceb-2cee 2cf2-2cf3 2d00-2d25 2d27 2d2d 2d30-2d67 2d6f
      2d80-2d96 2da0-2da6 2da8-2dae 2db0-2db6 2db8-2dbe 2dc0-2dc6 2dc8-2dce 2dd0-2dd6
      2dd8-2dde 2e2f 3005 303b-303c 3105-312f 3131-318e 31a0-31bf a000-a48c a4d0-a4fd
      a500-a60c a610-a61f a62a-a62b a640-a66e a67f-a69d a6a0-a6ef a708-a7ca a7d0-a7d1
      a7d3 a7d5-a7d9 a7f2-a801 a803-a805 a807-a80a a80c-a822 a840-a873 a882-a8b3
      a8f2-a8f7 a8fb a8fd-a8fe a90a-a925 a930-a946 a960-a97c a984-a9b2 a9cf aa00-aa28
      aa40-aa42 aa44-aa4b aae0-aaea aaf2-aaf4 ab01-ab06 ab09-ab0e ab11-ab16 ab20-ab26
      ab28-ab2e ab30-ab69 ab70-abe2 ac00-d7a3 d7b0-d7c6 d7cb-d7fb fb00-fb06 fb13-fb17
      fb50-fbb1 fbd3-fd3d fd50-fd8f fd92-fdc7 fdf0-fdfb fe70-fe74 fe76-fefc ff21-ff3a
      ff41-ff5a ffa0-ffbe ffc2-ffc7 ffca-ffcf ffd2-ffd7 ffda-ffdc 10000-1000b
      1000d-10026 10028-1003a 1003c-1003d 1003f-1004d 10050-1005d 10080-100fa
      10140-10174 10280-1029c 102a0-102d0 10300-1031f 1032d-1034a 10350-10375
      10380-1039d 103a0-103c3 103c8-103cf 103d1-103d5 10400-1049d 104b0-104d3
      104d8-104fb 10500-10527 10530-10563 10570-1057a 1057c-1058a 1058c-10592
      10594-10595 10597-105a1 105a3-105b1 105b3-105b9 105bb-105bc 10600-10736
      10740-10755 10760-10767 10780-10785 10787-107b0 107b2-107ba 10800-10805 10808
      1080a-10835 10837-10838 1083c 1083f-10855 10860-10876 10880-1089e 108e0-108f2
      108f4-108f5 10900-10915 10920-10939 10980-109b7 109be-109bf 10a00 10a10-10a13
      10a15-10a17 10a19-10a35 10a60-10a7c 10a80-10a9c 10ac0-10ac7 10ac9-10ae4
      10b00-10b35 10b40-10b55 10b60-10b72 10b80-10b91 10c00-10c48 10c80-10cb2
      10cc0-10cf2 10d00-10d23 10e80-10ea9 10eb0-10eb1 10f00-10f1c 10f27 10f30-10f45
      10f70-10f81 10fb0-10fc4 10fe0-10ff6 11003-11037 11071-11072 11075 11083-110af
      110d0-110e8 11103-11126 11144 11147 11150-11172 11176 11183-111b2 111c1-111c4
      111da 111dc 11200-11211 11213-1122b 1123f-11240 11280-11286 11288 1128a-1128d
      1128f-1129d 1129f-112a8 112b0-112de 11305-1130c 1130f-11310 11313-11328
      1132a-11330 11332-11333 11335-11339 1133d 11350 1135d-11361 11400-11434
      11447-1144a 1145f-11461 11480-114af 114c4-114c5 114c7 11580-115ae 115d8-115db
      11600-1162f 11644 11680-116aa 116b8 11800-1182b 118a0-118df 118ff-11906 11909
      1190c-11913 11915-11916 11918-1192f 1193f 11941 119a0-119a7 119aa-119d0 119e1
      119e3 11a00 11a0b-11a32 11a3a 11a50 11a5c-11a89 11a9d 11ab0-11af8 11c00-11c08
      11c0a-11c2e 11c40 11c72-11c8f 11d00-11d06 11d08-11d09 11d0b-11d30 11d46
      11d60-11d65 11d67-11d68 11d6a-11d89 11d98 11ee0-11ef2 11f02 11f04-11f10
      11f12-11f33 11fb0 12000-12399 12400-1246e 12480-12543 12f90-12ff0 13000-1342f
      13441-13446 14400-14646 16800-16a38 16a40-16a5e 16a70-16abe 16ad0-16aed
      16b00-16b2f 16b40-16b43 16b63-16b77 16b7d-16b8f 16e40-16e7f 16f00-16f4a 16f50
      16f93-16f9f 16fe0-16fe1 16fe3 1bc00-1bc6a 1bc70-1bc7c 1bc80-1bc88 1bc90-1bc99
      1d400-1d454 1d456-1d49c 1d49e-1d49f 1d4a2 1d4a5-1d4a6 1d4a9-1d4ac 1d4ae-1d4b9
      1d4bb 1d4bd-1d4c3 1d4c5-1d505 1d507-1d50a 1d50d-1d514 1d516-1d51c 1d51e-1d539
      1d53b-1d53e 1d540-1d544 1d546 1d54a-1d550 1d552-1d6a5 1d6a8-1d6c0 1d6c2-1d6da
      1d6dc-1d6fa 1d6fc-1d714 1d716-1d734 1d736-1d74e 1d750-1d76e 1d770-1d788
      1d78a-1d7a8 1d7aa-1d7c2 1d7c4-1d7cb 1df00-1df1e 1df25-1df2a 1e030-1e06d
      1e100-1e12c 1e137-1e13d 1e14e 1e290-1e2ad 1e2c0-1e2eb 1e4d0-1e4eb 1e7e0-1e7e6
      1e7e8-1e7eb 1e7ed-1e7ee 1e7f0-1e7fe 1e800-1e8c4 1e900-1e943 1e94b 1ee00-1ee03
      1ee05-1ee1f 1ee21-1ee22 1ee24 1ee27 1ee29-1ee32 1ee34-1ee37 1ee39 1ee3b 1ee42
      1ee47 1ee49 1ee4b 1ee4d-1ee4f 1ee51-1ee52 1ee54 1ee57 1ee59 1ee5b 1ee5d 1ee5f
      1ee61-1ee62 1ee64 1ee67-1ee6a 1ee6c-1ee72 1ee74-1ee77 1ee79-1ee7c 1ee7e
      1ee80-1ee89 1ee8b-1ee9b 1eea1-1eea3 1eea5-1eea9 1eeab-1eebb 1f130-1f149
      1f150-1f169 1f170-1f189"⟩,
    ⟨["lf"],
      "a"⟩,
    ⟨["mb", "midnumlet"],
      "2e 2018-2019 2024 fe52 ff07 ff0e"⟩,
    ⟨["ml", "midletter"],
      "3a b7 387 55f 5f4 2027 fe13 fe55 ff1a"⟩,
    ⟨["mn", "midnum"],
      "2c 3b 37e 589 60c-60d 66c 7f8 2044 fe10 fe14 fe50 fe54 ff0c ff1b"⟩,
    ⟨["nl", "newline"],
      "b-c 85 2028-2029"⟩,
    ⟨["nu", "numeric"],
      "30-39 660-669 66b 6f0-6f9 7c0-7c9 966-96f 9e6-9ef a66-a6f ae6-aef b66-b6f be6-bef
      c66-c6f ce6-cef d66-d6f de6-def e50-e59 ed0-ed9 f20-f29 1040-1049 1090-1099
      17e0-17e9 1810-1819 1946-194f 19d0-19d9 1a80-1a89 1a90-1a99 1b50-1b59 1bb0-1bb9
      1c40-1c49 1c50-1c59 a620-a629 a8d0-a8d9 a900-a909 a9d0-a9d9 a9f0-a9f9 aa50-aa59
      abf0-abf9 ff10-ff19 104a0-104a9 10d30-10d39 11066-1106f 110f0-110f9 11136-1113f
      111d0-111d9 112f0-112f9 11450-11459 114d0-114d9 11650-11659 116c0-116c9
      11730-11739 118e0-118e9 11950-11959 11c50-11c59 11d50-11d59 11da0-11da9
      11f50-11f59 16a60-16a69 16ac0-16ac9 16b50-16b59 1d7ce-1d7ff 1e140-1e149
      1e2f0-1e2f9 1e4f0-1e4f9 1e950-1e959 1fbf0-1fbf9"⟩,
    ⟨["ri", "regionalindicator"],
      "1f1e6-1f1ff"⟩,
    ⟨["sq", "singlequote"],
      "27"⟩,
    ⟨["wsegspace"],
      "20 1680 2000-2006 2008-200a 205f 3000"⟩,
    ⟨["zwj"],
      "200d"⟩
  ]

def sentenceBreaks : List NamedRanges :=
  [
    ⟨["at", "aterm"],
      "2e 2024 fe52 ff0e"⟩,
    ⟨["cl", "close"],
      "22 27-29 5b 5d 7b 7d ab bb f3a-f3d 169b-169c 2018-201f 2039-203a 2045-2046
      207d-207e 208d-208e 2308-230b 2329-232a 275b-2760 2768-2775 27c5-27c6 27e6-27ef
      2983-2998 29d8-29db 29fc-29fd 2e00-2e0d 2e1c-2e1d 2e20-2e29 2e42 2e55-2e5c
      3008-3011 3014-301b 301d-301f fd3e-fd3f fe17-fe18 fe35-fe44 fe47-fe48 fe59-fe5e
      ff08-ff09 ff3b ff3d ff5b ff5d ff5f-ff60 ff62-ff63 1f676-1f678"⟩,
    ⟨["cr"],
      "d"⟩,
    ⟨["ex", "extend"],
      "300-36f 483-489 591-5bd 5bf 5c1-5c2 5c4-5c5 5c7 610-61a 64b-65f 670 6d6-6dc
      6df-6e4 6e7-6e8 6ea-6ed 711 730-74a 7a6-7b0 7eb-7f3 7fd 816-819 81b-823 825-827
      829-82d 859-85b 898-89f 8ca-8e1 8e3-903 93a-93c 93e-94f 951-957 962-963 981-983
      9bc 9be-9c4 9c7-9c8 9cb-9cd 9d7 9e2-9e3 9fe a01-a03 a3c a3e-a42 a47-a48 a4b-a4d
      a51 a70-a71 a75 a81-a83 abc abe-ac5 ac7-ac9 acb-acd ae2-ae3 afa-aff b01-b03 b3c
      b3e-b44 b47-b48 b4b-b4d b55-b57 b62-b63 b82 bbe-bc2 bc6-bc8 bca-bcd bd7 c00-c04
      c3c c3e-c44 c46-c48 c4a-c4d c55-c56 c62-c63 c81-c83 cbc cbe-cc4 cc6-cc8 cca-ccd
      cd5-cd6 ce2-ce3 cf3 d00-d03 d3b-d3c d3e-d44 d46-d48 d4a-d4d d57 d62-d63 d81-d83
      dca dcf-dd4 dd6 dd8-ddf df2-df3 e31 e34-e3a e47-e4e eb1 eb4-ebc ec8-ece f18-f19
      f35 f37 f39 f3e-f3f f71-f84 f86-f87 f8d-f97 f99-fbc fc6 102b-103e 1056-1059
      105e-1060 1062-1064 1067-106d 1071-1074 1082-108d 108f 109a-109d 135d-135f
      1712-1715 1732-1734 1752-1753 1772-1773 17b4-17d3 17dd 180b-180d 180f 1885-1886
      18a9 1920-192b 1930-193b 1a17-1a1b 1a55-1a5e 1a60-1a7c 1a7f 1ab0-1ace 1b00-1b04
      1b34-1b44 1b6b-1b73 1b80-1b82 1ba1-1bad 1be6-1bf3 1c24-1c37 1cd0-1cd2 1cd4-1ce8
      1ced 1cf4 1cf7-1cf9 1dc0-1dff 200c-200d 20d0-20f0 2cef-2cf1 2d7f 2de0-2dff
      302a-302f 3099-309a a66f-a672 a674-a67d a69e-a69f a6f0-a6f1 a802 a806 a80b
      a823-a827 a82c a880-a881 a8b4-a8c5 a8e0-a8f1 a8ff a926-a92d a947-a953 a980-a983
      a9b3-a9c0 a9e5 aa29-aa36 aa43 aa4c-aa4d aa7b-aa7d aab0 aab2-aab4 aab7-aab8
      aabe-aabf aac1 aaeb-aaef aaf5-aaf6 abe3-abea abec-abed fb1e fe00-fe0f fe20-fe2f
      ff9e-ff9f 101fd 102e0 10376-1037a 10a01-10a03 10a05-10a06 10a0c-10a0f 10a38-10a3a
      10a3f 10ae5-10ae6 10d24-10d27 10eab-10eac 10efd-10eff 10f46-10f50 10f82-10f85
      11000-11002 11038-11046 11070 11073-11074 1107f-11082 110b0-110ba 110c2
      11100-11102 11127-11134 11145-11146 11173 11180-11182 111b3-111c0 111c9-111cc
      111ce-111cf 1122c-11237 1123e 11241 112df-112ea 11300-11303 1133b-1133c
      1133e-11344 11347-11348 1134b-1134d 11357 11362-11363 11366-1136c 11370-11374
      11435-11446 1145e 114b0-114c3 115af-115b5 115b8-115c0 115dc-115dd 11630-11640
      116ab-116b7 1171d-1172b 1182c-1183a 11930-11935 11937-11938 1193b-1193e 11940
      11942-11943 119d1-119d7 119da-119e0 119e4 11a01-11a0a 11a33-11a39 11a3b-11a3e
      11a47 11a51-11a5b 11a8a-11a99 11c2f-11c36 11c38-11c3f 11c92-11ca7 11ca9-11cb6
      11d31-11d36 11d3a 11d3c-11d3d 11d3f-11d45 11d47 11d8a-11d8e 11d90-11d91
      11d93-11d97 11ef3-11ef6 11f00-11f01 11f03 11f34-11f3a 11f3e-11f42 13440
      13447-13455 16af0-16af4 16b30-16b36 16f4f 16f51-16f87 16f8f-16f92 16fe4
      16ff0-16ff1 1bc9d-1bc9e 1cf00-1cf2d 1cf30-1cf46 1d165-1d169 1d16d-1d172
      1d17b-1d182 1d185-1d18b 1d1aa-1d1ad 1d242-1d244 1da00-1da36 1da3b-1da6c 1da75
      1da84 1da9b-1da9f 1daa1-1daaf 1e000-1e006 1e008-1e018 1e01b-1e021 1e023-1e024
      1e026-1e02a 1e08f 1e130-1e136 1e2ae 1e2ec-1e2ef 1e4ec-1e4ef 1e8d0-1e8d6
      1e944-1e94a e0020-e007f e0100-e01ef"⟩,
    ⟨["fo", "format"],
      "ad 600-605 61c 6dd 70f 890-891 8e2 180e 200b 200e-200f 202a-202e 2060-2064
      2066-206f feff fff9-fffb 110bd 110cd 13430-1343f 1bca0-1bca3 1d173-1d17a e0001"⟩,
    ⟨["le", "oletter"],
      "1bb 1c0-1c3 294 2b9-2bf 2c6-2d1 2ec 2ee 374 559 5d0-5ea 5ef-5f3 620-64a 66e-66f
      671-6d3 6d5 6e5-6e6 6ee-6ef 6fa-6fc 6ff 710 712-72f 74d-7a5 7b1 7ca-7ea 7f4-7f5
      7fa 800-815 81a 824 828 840-858 860-86a 870-887 889-88e 8a0-8c9 904-939 93d 950
      958-961 971-980 985-98c 98f-990 993-9a8 9aa-9b0 9b2 9b6-9b9 9bd 9ce 9dc-9dd
      9df-9e1 9f0-9f1 9fc a05-a0a a0f-a10 a13-a28 a2a-a30 a32-a33 a35-a36 a38-a39
      a59-a5c a5e a72-a74 a85-a8d a8f-a91 a93-aa8 aaa-ab0 ab2-ab3 ab5-ab9 abd ad0
      ae0-ae1 af9 b05-b0c b0f-b10 b13-b28 b2a-b30 b32-b33 b35-b39 b3d b5c-b5d b5f-b61
      b71 b83 b85-b8a b8e-b90 b92-b95 b99-b9a b9c b9e-b9f ba3-ba4 ba8-baa bae-bb9 bd0
      c05-c0c c0e-c10 c12-c28 c2a-c39 c3d c58-c5a c5d c60-c61 c80 c85-c8c c8e-c90
      c92-ca8 caa-cb3 cb5-cb9 cbd cdd-cde ce0-ce1 cf1-cf2 d04-d0c d0e-d10 d12-d3a d3d
      d4e d54-d56 d5f-d61 d7a-d7f d85-d96 d9a-db1 db3-dbb dbd dc0-dc6 e01-e30 e32-e33
      e40-e46 e81-e82 e84 e86-e8a e8c-ea3 ea5 ea7-eb0 eb2-eb3 ebd ec0-ec4 ec6 edc-edf
      f00 f40-f47 f49-f6c f88-f8c 1000-102a 103f 1050-1055 105a-105d 1061 1065-1066
      106e-1070 1075-1081 108e 10d0-10fa 10fd-1248 124a-124d 1250-1256 1258 125a-125d
      1260-1288 128a-128d 1290-12b0 12b2-12b5 12b8-12be 12c0 12c2-12c5 12c8-12d6
      12d8-1310 1312-1315 1318-135a 1380-138f 1401-166c 166f-167f 1681-169a 16a0-16ea
      16ee-16f8 1700-1711 171f-1731 1740-1751 1760-176c 176e-1770 1780-17b3 17d7 17dc
      1820-1878 1880-1884 1887-18a8 18aa 18b0-18f5 1900-191e 1950-196d 1970-1974
      1980-19ab 19b0-19c9 1a00-1a16 1a20-1a54 1aa7 1b05-1b33 1b45-1b4c 1b83-1ba0
      1bae-1baf 1bba-1be5 1c00-1c23 1c4d-1c4f 1c5a-1c7d 1c90-1cba 1cbd-1cbf 1ce9-1cec
      1cee-1cf3 1cf5-1cf6 1cfa 2135-2138 2180-2182 2185-2188 2d30-2d67 2d6f 2d80-2d96
      2da0-2da6 2da8-2dae 2db0-2db6 2db8-2dbe 2dc0-2dc6 2dc8-2dce 2dd0-2dd6 2dd8-2dde
      2e2f 3005-3007 3021-3029 3031-3035 3038-303c 3041-3096 309d-309f 30a1-30fa
      30fc-30ff 3105-312f 3131-318e 31a0-31bf 31f0-31ff 3400-4dbf 4e00-a48c a4d0-a4fd
      a500-a60c a610-a61f a62a-a62b a66e a67f a6a0-a6ef a717-a71f a788 a78f a7f7
      a7fb-a801 a803-a805 a807-a80a a80c-a822 a840-a873 a882-a8b3 a8f2-a8f7 a8fb
      a8fd-a8fe a90a-a925 a930-a946 a960-a97c a984-a9b2 a9cf a9e0-a9e4 a9e6-a9ef
      a9fa-a9fe aa00-aa28 aa40-aa42 aa44-aa4b aa60-aa76 aa7a aa7e-aaaf aab1 aab5-aab6
      aab9-aabd aac0 aac2 aadb-aadd aae0-aaea aaf2-aaf4 ab01-ab06 ab09-ab0e ab11-ab16
      ab20-ab26 ab28-ab2e abc0-abe2 ac00-d7a3 d7b0-d7c6 d7cb-d7fb f900-fa6d fa70-fad9
      fb1d fb1f-fb28 fb2a-fb36 fb38-fb3c fb3e fb40-fb41 fb43-fb44 fb46-fbb1 fbd3-fd3d
      fd50-fd8f fd92-fdc7 fdf0-fdfb fe70-fe74 fe76-fefc ff66-ff9d ffa0-ffbe ffc2-ffc7
      ffca-ffcf ffd2-ffd7 ffda-ffdc 10000-1000b 1000d-10026 10028-1003a 1003c-1003d
      1003f-1004d 10050-1005d 10080-100fa 10140-10174 10280-1029c 102a0-102d0
      10300-1031f 1032d-1034a 10350-10375 10380-1039d 103a0-103c3 103c8-103cf
      103d1-103d5 10450-1049d 10500-10527 10530-10563 10600-10736 10740-10755
      10760-10767 10781-10782 10800-10805 10808 1080a-10835 10837-10838 1083c
      1083f-10855 10860-10876 10880-1089e 108e0-108f2 108f4-108f5 10900-10915
      10920-10939 10980-109b7 109be-109bf 10a00 10a10-10a13 10a15-10a17 10a19-10a35
      10a60-10a7c 10a80-10a9c 10ac0-10ac7 10ac9-10ae4 10b00-10b35 10b40-10b55
      10b60-10b72 10b80-10b91 10c00-10c48 10d00-10d23 10e80-10ea9 10eb0-10eb1
      10f00-10f1c 10f27 10f30-10f45 10f70-10f81 10fb0-10fc4 10fe0-10ff6 11003-11037
      11071-11072 11075 11083-110af 110d0-110e8 11103-11126 11144 11147 11150-11172
      11176 11183-111b2 111c1-111c4 111da 111dc 11200-11211 11213-1122b 1123f-11240
      11280-11286 11288 1128a-1128d 1128f-1129d 1129f-112a8 112b0-112de 11305-1130c
      1130f-11310 11313-11328 1132a-11330 11332-11333 11335-11339 1133d 11350
      1135d-11361 11400-11434 11447-1144a 1145f-11461 11480-114af 114c4-114c5 114c7
      11580-115ae 115d8-115db 11600-1162f 11644 11680-116aa 116b8 11700-1171a
      11740-11746 11800-1182b 118ff-11906 11909 1190c-11913 11915-11916 11918-1192f
      1193f 11941 119a0-119a7 119aa-119d0 119e1 119e3 11a00 11a0b-11a32 11a3a 11a50
      11a5c-11a89 11a9d 11ab0-11af8 11c00-11c08 11c0a-11c2e 11c40 11c72-11c8f
      11d00-11d06 11d08-11d09 11d0b-11d30 11d46 11d60-11d65 11d67-11d68 11d6a-11d89
      11d98 11ee0-11ef2 11f02 11f04-11f10 11f12-11f33 11fb0 12000-12399 12400-1246e
      12480-12543 12f90-12ff0 13000-1342f 13441-13446 14400-14646 16800-16a38
      16a40-16a5e 16a70-16abe 16ad0-16aed 16b00-16b2f 16b40-16b43 16b63-16b77
      16b7d-16b8f 16f00-16f4a 16f50 16f93-16f9f 16fe0-16fe1 16fe3 17000-187f7
      18800-18cd5 18d00-18d08 1aff0-1aff3 1aff5-1affb 1affd-1affe 1b000-1b122 1b132
      1b150-1b152 1b155 1b164-1b167 1b170-1b2fb 1bc00-1bc6a 1bc70-1bc7c 1bc80-1bc88
      1bc90-1bc99 1df0a 1e100-1e12c 1e137-1e13d 1e14e 1e290-1e2ad 1e2c0-1e2eb
      1e4d0-1e4eb 1e7e0-1e7e6 1e7e8-1e7eb 1e7ed-1e7ee 1e7f0-1e7fe 1e800-1e8c4 1e94b
      1ee00-1ee03 1ee05-1ee1f 1ee21-1ee22 1ee24 1ee27 1ee29-1ee32 1ee34-1ee37 1ee39
      1ee3b 1ee42 1ee47 1ee49 1ee4b 1ee4d-1ee4f 1ee51-1ee52 1ee54 1ee57 1ee59 1ee5b
      1ee5d 1ee5f 1ee61-1ee62 1ee64 1ee67-1ee6a 1ee6c-1ee72 1ee74-1ee77 1ee79-1ee7c
      1ee7e 1ee80-1ee89 1ee8b-1ee9b 1eea1-1eea3 1eea5-1eea9 1eeab-1eebb 20000-2a6df
      2a700-2b739 2b740-2b81d 2b820-2cea1 2ceb0-2ebe0 2f800-2fa1d 30000-3134a
      31350-323af"⟩,
    ⟨["lf"],
      "a"⟩,
    ⟨["lo", "lower"],
      "61-7a aa b5 ba df-f6 f8-ff 101 103 105 107 109 10b 10d 10f 111 113 115 117 119 11b
      11d 11f 121 123 125 127 129 12b 12d 12f 131 133 135 137-138 13a 13c 13e 140 142
      144 146 148-149 14b 14d 14f 151 153 155 157 159 15b 15d 15f 161 163 165 167 169
      16b 16d 16f 171 173 175 177 17a 17c 17e-180 183 185 188 18c-18d 192 195 199-19b
      19e 1a1 1a3 1a5 1a8 1aa-1ab 1ad 1b0 1b4 1b6 1b9-1ba 1bd-1bf 1c6 1c9 1cc 1ce 1d0
      1d2 1d4 1d6 1d8 1da 1dc-1dd 1df 1e1 1e3 1e5 1e7 1e9 1eb 1ed 1ef-1f0 1f3 1f5 1f9
      1fb 1fd 1ff 201 203 205 207 209 20b 20d 20f 211 213 215 217 219 21b 21d 21f 221
      223 225 227 229 22b 22d 22f 231 233-239 23c 23f-240 242 247 249 24b 24d 24f-293
      295-2b8 2c0-2c1 2e0-2e4 371 373 377 37a-37d 390 3ac-3ce 3d0-3d1 3d5-3d7 3d9 3db
      3dd 3df 3e1 3e3 3e5 3e7 3e9 3eb 3ed 3ef-3f3 3f5 3f8 3fb-3fc 430-45f 461 463 465
      467 469 46b 46d 46f 471 473 475 477 479 47b 47d 47f 481 48b 48d 48f 491 493 495
      497 499 49b 49d 49f 4a1 4a3 4a5 4a7 4a9 4ab 4ad 4af 4b1 4b3 4b5 4b7 4b9 4bb 4bd
      4bf 4c2 4c4 4c6 4c8 4ca 4cc 4ce-4cf 4d1 4d3 4d5 4d7 4d9 4db 4dd 4df 4e1 4e3 4e5
      4e7 4e9 4eb 4ed 4ef 4f1 4f3 4f5 4f7 4f9 4fb 4fd 4ff 501 503 505 507 509 50b 50d
      50f 511 513 515 517 519 51b 51d 51f 521 523 525 527 529 52b 52d 52f 560-588 10fc
      13f8-13fd 1c80-1c88 1d00-1dbf 1e01 1e03 1e05 1e07 1e09 1e0b 1e0d 1e0f 1e11 1e13
      1e15 1e17 1e19 1e1b 1e1d 1e1f 1e21 1e23 1e25 1e27 1e29 1e2b 1e2d 1e2f 1e31 1e33
      1e35 1e37 1e39 1e3b 1e3d 1e3f 1e41 1e43 1e45 1e47 1e49 1e4b 1e4d 1e4f 1e51 1e53
      1e55 1e57 1e59 1e5b 1e5d 1e5f 1e61 1e63 1e65 1e67 1e69 1e6b 1e6d 1e6f 1e71 1e73
      1e75 1e77 1e79 1e7b 1e7d 1e7f 1e81 1e83 1e85 1e87 1e89 1e8b 1e8d 1e8f 1e91 1e93
      1e95-1e9d 1e9f 1ea1 1ea3 1ea5 1ea7 1ea9 1eab 1ead 1eaf 1eb1 1eb3 1eb5 1eb7 1eb9
      1ebb 1ebd 1ebf 1ec1 1ec3 1ec5 1ec7 1ec9 1ecb 1ecd 1ecf 1ed1 1ed3 1ed5 1ed7 1ed9
      1edb 1edd 1edf 1ee1 1ee3 1ee5 1ee7 1ee9 1eeb 1eed 1eef 1ef1 1ef3 1ef5 1ef7 1ef9
      1efb 1efd 1eff-1f07 1f10-1f15 1f20-1f27 1f30-1f37 1f40-1f45 1f50-1f57 1f60-1f67
      1f70-1f7d 1f80-1f87 1f90-1f97 1fa0-1fa7 1fb0-1fb4 1fb6-1fb7 1fbe 1fc2-1fc4
      1fc6-1fc7 1fd0-1fd3 1fd6-1fd7 1fe0-1fe7 1ff2-1ff4 1ff6-1ff7 2071 207f 2090-209c
      210a 210e-210f 2113 212f 2134 2139 213c-213d 2146-2149 214e 2170-217f 2184
      24d0-24e9 2c30-2c5f 2c61 2c65-2c66 2c68 2c6a 2c6c 2c71 2c73-2c74 2c76-2c7d 2c81
      2c83 2c85 2c87 2c89 2c8b 2c8d 2c8f 2c91 2c93 2c95 2c97 2c99 2c9b 2c9d 2c9f 2ca1
      2ca3 2ca5 2ca7 2ca9 2cab 2cad 2caf 2cb1 2cb3 2cb5 2cb7 2cb9 2cbb 2cbd 2cbf 2cc1
      2cc3 2cc5 2cc7 2cc9 2ccb 2ccd 2ccf 2cd1 2cd3 2cd5 2cd7 2cd9 2cdb 2cdd 2cdf 2ce1
      2ce3-2ce4 2cec 2cee 2cf3 2d00-2d25 2d27 2d2d a641 a643 a645 a647 a649 a64b a64d
      a64f a651 a653 a655 a657 a659 a65b a65d a65f a661 a663 a665 a667 a669 a66b a66d
      a681 a683 a685 a687 a689 a68b a68d a68f a691 a693 a695 a697 a699 a69b-a69d a723
      a725 a727 a729 a72b a72d a72f-a731 a733 a735 a737 a739 a73b a73d a73f a741 a743
      a745 a747 a749 a74b a74d a74f a751 a753 a755 a757 a759 a75b a75d a75f a761 a763
      a765 a767 a769 a76b a76d a76f-a778 a77a a77c a77f a781 a783 a785 a787 a78c a78e
      a791 a793-a795 a797 a799 a79b a79d a79f a7a1 a7a3 a7a5 a7a7 a7a9 a7af a7b5 a7b7
      a7b9 a7bb a7bd a7bf a7c1 a7c3 a7c8 a7ca a7d1 a7d3 a7d5 a7d7 a7d9 a7f2-a7f4 a7f6
      a7f8-a7fa ab30-ab5a ab5c-ab69 ab70-abbf fb00-fb06 fb13-fb17 ff41-ff5a 10428-1044f
      104d8-104fb 10597-105a1 105a3-105b1 105b3-105b9 105bb-105bc 10780 10783-10785
      10787-107b0 107b2-107ba 10cc0-10cf2 118c0-118df 16e60-16e7f 1d41a-1d433
      1d44e-1d454 1d456-1d467 1d482-1d49b 1d4b6-1d4b9 1d4bb 1d4bd-1d4c3 1d4c5-1d4cf
      1d4ea-1d503 1d51e-1d537 1d552-1d56b 1d586-1d59f 1d5ba-1d5d3 1d5ee-1d607
      1d622-1d63b 1d656-1d66f 1d68a-1d6a5 1d6c2-1d6da 1d6dc-1d6e1 1d6fc-1d714
      1d716-1d71b 1d736-1d74e 1d750-1d755 1d770-1d788 1d78a-1d78f 1d7aa-1d7c2
      1d7c4-1d7c9 1d7cb 1df00-1df09 1df0b-1df1e 1df25-1df2a 1e030-1e06d 1e922-1e943"⟩,
    ⟨["nu", "numeric"],
      "30-39 660-669 66b-66c 6f0-6f9 7c0-7c9 966-96f 9e6-9ef a66-a6f ae6-aef b66-b6f
      be6-bef c66-c6f ce6-cef d66-d6f de6-def e50-e59 ed0-ed9 f20-f29 1040-1049
      1090-1099 17e0-17e9 1810-1819 1946-194f 19d0-19d9 1a80-1a89 1a90-1a99 1b50-1b59
      1bb0-1bb9 1c40-1c49 1c50-1c59 a620-a629 a8d0-a8d9 a900-a909 a9d0-a9d9 a9f0-a9f9
      aa50-aa59 abf0-abf9 ff10-ff19 104a0-104a9 10d30-10d39 11066-1106f 110f0-110f9
      11136-1113f 111d0-111d9 112f0-112f9 11450-11459 114d0-114d9 11650-11659
      116c0-116c9 11730-11739 118e0-118e9 11950-11959 11c50-11c59 11d50-11d59
      11da0-11da9 11f50-11f59 16a60-16a69 16ac0-16ac9 16b50-16b59 1d7ce-1d7ff
      1e140-1e149 1e2f0-1e2f9 1e4f0-1e4f9 1e950-1e959 1fbf0-1fbf9"⟩,
    ⟨["sc", "scontinue"],
      "2c-2d 3a 55d 60c-60d 7f8 1802 1808 2013-2014 3001 fe10-fe11 fe13 fe31-fe32
      fe50-fe51 fe55 fe58 fe63 ff0c-ff0d ff1a ff64"⟩,
    ⟨["se", "sep"],
      "85 2028-2029"⟩,
    ⟨["sp"],
      "9 b-c 20 a0 1680 2000-200a 202f 205f 3000"⟩,
    ⟨["st", "sterm"],
      "21 3f 589 61d-61f 6d4 700-702 7f9 837 839 83d-83e 964-965 104a-104b 1362 1367-1368
      166e 1735-1736 1803 1809 1944-1945 1aa8-1aab 1b5a-1b5b 1b5e-1b5f 1b7d-1b7e
      1c3b-1c3c 1c7e-1c7f 203c-203d 2047-2049 2e2e 2e3c 2e53-2e54 3002 a4ff a60e-a60f
      a6f3 a6f7 a876-a877 a8ce-a8cf a92f a9c8-a9c9 aa5d-aa5f aaf0-aaf1 abeb fe56-fe57
      ff01 ff1f ff61 10a56-10a57 10f55-10f59 10f86-10f89 11047-11048 110be-110c1
      11141-11143 111c5-111c6 111cd 111de-111df 11238-11239 1123b-1123c 112a9
      1144b-1144c 115c2-115c3 115c9-115d7 11641-11642 1173c-1173e 11944 11946
      11a42-11a43 11a9b-11a9c 11c41-11c42 11ef7-11ef8 11f43-11f44 16a6e-16a6f 16af5
      16b37-16b38 16b44 16e98 1bc9f 1da88"⟩,
    ⟨["up", "upper"],
      "41-5a c0-d6 d8-de 100 102 104 106 108 10a 10c 10e 110 112 114 116 118 11a 11c 11e
      120 122 124 126 128 12a 12c 12e 130 132 134 136 139 13b 13d 13f 141 143 145 147
      14a 14c 14e 150 152 154 156 158 15a 15c 15e 160 162 164 166 168 16a 16c 16e 170
      172 174 176 178-179 17b 17d 181-182 184 186-187 189-18b 18e-191 193-194 196-198
      19c-19d 19f-1a0 1a2 1a4 1a6-1a7 1a9 1ac 1ae-1af 1b1-1b3 1b5 1b7-1b8 1bc 1c4-1c5
      1c7-1c8 1ca-1cb 1cd 1cf 1d1 1d3 1d5 1d7 1d9 1db 1de 1e0 1e2 1e4 1e6 1e8 1ea 1ec
      1ee 1f1-1f2 1f4 1f6-1f8 1fa 1fc 1fe 200 202 204 206 208 20a 20c 20e 210 212 214
      216 218 21a 21c 21e 220 222 224 226 228 22a 22c 22e 230 232 23a-23b 23d-23e 241
      243-246 248 24a 24c 24e 370 372 376 37f 386 388-38a 38c 38e-38f 391-3a1 3a3-3ab
      3cf 3d2-3d4 3d8 3da 3dc 3de 3e0 3e2 3e4 3e6 3e8 3ea 3ec 3ee 3f4 3f7 3f9-3fa
      3fd-42f 460 462 464 466 468 46a 46c 46e 470 472 474 476 478 47a 47c 47e 480 48a
      48c 48e 490 492 494 496 498 49a 49c 49e 4a0 4a2 4a4 4a6 4a8 4aa 4ac 4ae 4b0 4b2
      4b4 4b6 4b8 4ba 4bc 4be 4c0-4c1 4c3 4c5 4c7 4c9 4cb 4cd 4d0 4d2 4d4 4d6 4d8 4da
      4dc 4de 4e0 4e2 4e4 4e6 4e8 4ea 4ec 4ee 4f0 4f2 4f4 4f6 4f8 4fa 4fc 4fe 500 502
      504 506 508 50a 50c 50e 510 512 514 516 518 51a 51c 51e 520 522 524 526 528 52a
      52c 52e 531-556 10a0-10c5 10c7 10cd 13a0-13f5 1e00 1e02 1e04 1e06 1e08 1e0a 1e0c
      1e0e 1e10 1e12 1e14 1e16 1e18 1e1a 1e1c 1e1e 1e20 1e22 1e24 1e26 1e28 1e2a 1e2c
      1e2e 1e30 1e32 1e34 1e36 1e38 1e3a 1e3c 1e3e 1e40 1e42 1e44 1e46 1e48 1e4a 1e4c
      1e4e 1e50 1e52 1e54 1e56 1e58 1e5a 1e5c 1e5e 1e60 1e62 1e64 1e66 1e68 1e6a 1e6c
      1e6e 1e70 1e72 1e74 1e76 1e78 1e7a 1e7c 1e7e 1e80 1e82 1e84 1e86 1e88 1e8a 1e8c
      1e8e 1e90 1e92 1e94 1e9e 1ea0 1ea2 1ea4 1ea6 1ea8 1eaa 1eac 1eae 1eb0 1eb2 1eb4
      1eb6 1eb8 1eba 1ebc 1ebe 1ec0 1ec2 1ec4 1ec6 1ec8 1eca 1ecc 1ece 1ed0 1ed2 1ed4
      1ed6 1ed8 1eda 1edc 1ede 1ee0 1ee2 1ee4 1ee6 1ee8 1eea 1eec 1eee 1ef0 1ef2 1ef4
      1ef6 1ef8 1efa 1efc 1efe 1f08-1f0f 1f18-1f1d 1f28-1f2f 1f38-1f3f 1f48-1f4d 1f59
      1f5b 1f5d 1f5f 1f68-1f6f 1f88-1f8f 1f98-1f9f 1fa8-1faf 1fb8-1fbc 1fc8-1fcc
      1fd8-1fdb 1fe8-1fec 1ff8-1ffc 2102 2107 210b-210d 2110-2112 2115 2119-211d 2124
      2126 2128 212a-212d 2130-2133 213e-213f 2145 2160-216f 2183 24b6-24cf 2c00-2c2f
      2c60 2c62-2c64 2c67 2c69 2c6b 2c6d-2c70 2c72 2c75 2c7e-2c80 2c82 2c84 2c86 2c88
      2c8a 2c8c 2c8e 2c90 2c92 2c94 2c96 2c98 2c9a 2c9c 2c9e 2ca0 2ca2 2ca4 2ca6 2ca8
      2caa 2cac 2cae 2cb0 2cb2 2cb4 2cb6 2cb8 2cba 2cbc 2cbe 2cc0 2cc2 2cc4 2cc6 2cc8
      2cca 2ccc 2cce 2cd0 2cd2 2cd4 2cd6 2cd8 2cda 2cdc 2cde 2ce0 2ce2 2ceb 2ced 2cf2
      a640 a642 a644 a646 a648 a64a a64c a64e a650 a652 a654 a656 a658 a65a a65c a65e
      a660 a662 a664 a666 a668 a66a a66c a680 a682 a684 a686 a688 a68a a68c a68e a690
      a692 a694 a696 a698 a69a a722 a724 a726 a728 a72a a72c a72e a732 a734 a736 a738
      a73a a73c a73e a740 a742 a744 a746 a748 a74a a74c a74e a750 a752 a754 a756 a758
      a75a a75c a75e a760 a762 a764 a766 a768 a76a a76c a76e a779 a77b a77d-a77e a780
      a782 a784 a786 a78b a78d a790 a792 a796 a798 a79a a79c a79e a7a0 a7a2 a7a4 a7a6
      a7a8 a7aa-a7ae a7b0-a7b4 a7b6 a7b8 a7ba a7bc a7be a7c0 a7c2 a7c4-a7c7 a7c9 a7d0
      a7d6 a7d8 a7f5 ff21-ff3a 10400-10427 104b0-104d3 10570-1057a 1057c-1058a
      1058c-10592 10594-10595 10c80-10cb2 118a0-118bf 16e40-16e5f 1d400-1d419
      1d434-1d44d 1d468-1d481 1d49c 1d49e-1d49f 1d4a2 1d4a5-1d4a6 1d4a9-1d4ac
      1d4ae-1d4b5 1d4d0-1d4e9 1d504-1d505 1d507-1d50a 1d50d-1d514 1d516-1d51c
      1d538-1d539 1d53b-1d53e 1d540-1d544 1d546 1d54a-1d550 1d56c-1d585 1d5a0-1d5b9
      1d5d4-1d5ed 1d608-1d621 1d63c-1d655 1d670-1d689 1d6a8-1d6c0 1d6e2-1d6fa
      1d71c-1d734 1d756-1d76e 1d790-1d7a8 1d7ca 1e900-1e921 1f130-1f149 1f150-1f169
      1f170-1f189"⟩
  ]

end PolicyWatch.Unicode
