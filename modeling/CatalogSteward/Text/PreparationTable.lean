import CatalogSteward.Text.CodeTable

/-!
# Characters of prepared passwords

The tables of RFC 3454 that the preparation of a password uses, and the directions of
the characters.
-/

set_option autoImplicit false

namespace CatalogSteward.Text

def otherSpaces : CodeTable :=
  CodeTable.ofLines
    ["a0 1680 2000-200b 202f 205f 3000"]

/-- The characters that are commonly mapped to nothing. -/
def mappedToNothing : CodeTable :=
  CodeTable.ofLines
    ["ad 34f 1806 180b-180d 200b-200d 2060 fe00-fe0f feff"]

/-- The characters that a prepared password must not hold. -/
def prohibited : CodeTable :=
  CodeTable.ofLines
    ["0-1f 7f-a0 340-341 6dd 70f 1680 180e 2000-200f 2028-202f 205f-2063 206a-206f 2ff0-2ffb",
     "3000 e000-f8ff fdd0-fdef feff fff9-ffff 1d173-1d17a 1fffe-1ffff 2fffe-2ffff 3fffe-3ffff",
     "4fffe-4ffff 5fffe-5ffff 6fffe-6ffff 7fffe-7ffff 8fffe-8ffff 9fffe-9ffff afffe-affff",
     "bfffe-bffff cfffe-cffff dfffe-dffff e0001 e0020-e007f efffe-10ffff"]

/-- The characters without assignment in version 3.2 of Unicode. -/
def unassigned : CodeTable :=
  CodeTable.ofLines
    ["221 234-24f 2ae-2af 2ef-2ff 350-35f 370-373 376-379 37b-37d 37f-383 38b 38d 3a2 3cf",
     "3f7-3ff 487 4cf 4f6-4f7 4fa-4ff 510-530 557-558 560 588 58b-590 5a2 5ba 5c5-5cf 5eb-5ef",
     "5f5-60b 60d-61a 61c-61e 620 63b-63f 656-65f 6ee-6ef 6ff 70e 72d-72f 74b-77f 7b2-900 904",
     "93a-93b 94e-94f 955-957 971-980 984 98d-98e 991-992 9a9 9b1 9b3-9b5 9ba-9bb 9bd 9c5-9c6",
     "9c9-9ca 9ce-9d6 9d8-9db 9de 9e4-9e5 9fb-a01 a03-a04 a0b-a0e a11-a12 a29 a31 a34 a37",
     "a3a-a3b a3d a43-a46 a49-a4a a4e-a58 a5d a5f-a65 a75-a80 a84 a8c a8e a92 aa9 ab1 ab4",
     "aba-abb ac6 aca ace-acf ad1-adf ae1-ae5 af0-b00 b04 b0d-b0e b11-b12 b29 b31 b34-b35",
     "b3a-b3b b44-b46 b49-b4a b4e-b55 b58-b5b b5e b62-b65 b71-b81 b84 b8b-b8d b91 b96-b98 b9b",
     "b9d ba0-ba2 ba5-ba7 bab-bad bb6 bba-bbd bc3-bc5 bc9 bce-bd6 bd8-be6 bf3-c00 c04 c0d c11",
     "c29 c34 c3a-c3d c45 c49 c4e-c54 c57-c5f c62-c65 c70-c81 c84 c8d c91 ca9 cb4 cba-cbd cc5",
     "cc9 cce-cd4 cd7-cdd cdf ce2-ce5 cf0-d01 d04 d0d d11 d29 d3a-d3d d44-d45 d49 d4e-d56",
     "d58-d5f d62-d65 d70-d81 d84 d97-d99 db2 dbc dbe-dbf dc7-dc9 dcb-dce dd5 dd7 de0-df1",
     "df5-e00 e3b-e3e e5c-e80 e83 e85-e86 e89 e8b-e8c e8e-e93 e98 ea0 ea4 ea6 ea8-ea9 eac eba",
     "ebe-ebf ec5 ec7 ece-ecf eda-edb ede-eff f48 f6b-f70 f8c-f8f f98 fbd fcd-fce fd0-fff 1022",
     "1028 102b 1033-1035 103a-103f 105a-109f 10c6-10cf 10f9-10fa 10fc-10ff 115a-115e",
     "11a3-11a7 11fa-11ff 1207 1247 1249 124e-124f 1257 1259 125e-125f 1287 1289 128e-128f",
     "12af 12b1 12b6-12b7 12bf 12c1 12c6-12c7 12cf 12d7 12ef 130f 1311 1316-1317 131f 1347",
     "135b-1360 137d-139f 13f5-1400 1677-167f 169d-169f 16f1-16ff 170d 1715-171f 1737-173f",
     "1754-175f 176d 1771 1774-177f 17dd-17df 17ea-17ff 180f 181a-181f 1878-187f 18aa-1dff",
     "1e9c-1e9f 1efa-1eff 1f16-1f17 1f1e-1f1f 1f46-1f47 1f4e-1f4f 1f58 1f5a 1f5c 1f5e",
     "1f7e-1f7f 1fb5 1fc5 1fd4-1fd5 1fdc 1ff0-1ff1 1ff5 1fff 2053-2056 2058-205e 2064-2069",
     "2072-2073 208f-209f 20b2-20cf 20eb-20ff 213b-213c 214c-2152 2184-218f 23cf-23ff",
     "2427-243f 244b-245f 24ff 2614-2615 2618 267e-267f 268a-2700 2705 270a-270b 2728 274c",
     "274e 2753-2755 2757 275f-2760 2795-2797 27b0 27bf-27cf 27ec-27ef 2b00-2e7f 2e9a",
     "2ef4-2eff 2fd6-2fef 2ffc-2fff 3040 3097-3098 3100-3104 312d-3130 318f 31b8-31ef",
     "321d-321f 3244-3250 327c-327e 32cc-32cf 32ff 3377-337a 33de-33df 33ff 4db6-4dff",
     "9fa6-9fff a48d-a48f a4c7-abff d7a4-d7ff fa2e-fa2f fa6b-faff fb07-fb12 fb18-fb1c fb37",
     "fb3d fb3f fb42 fb45 fbb2-fbd2 fd40-fd4f fd90-fd91 fdc8-fdcf fdfd-fdff fe10-fe1f",
     "fe24-fe2f fe47-fe48 fe53 fe67 fe6c-fe6f fe75 fefd-fefe ff00 ffbf-ffc1 ffc8-ffc9",
     "ffd0-ffd1 ffd8-ffd9 ffdd-ffdf ffe7 ffef-fff8 10000-102ff 1031f 10324-1032f 1034b-103ff",
     "10426-10427 1044e-1cfff 1d0f6-1d0ff 1d127-1d129 1d1de-1d3ff 1d455 1d49d 1d4a0-1d4a1",
     "1d4a3-1d4a4 1d4a7-1d4a8 1d4ad 1d4ba 1d4bc 1d4c1 1d4c4 1d506 1d50b-1d50c 1d515 1d51d",
     "1d53a 1d53f 1d545 1d547-1d549 1d551 1d6a4-1d6a7 1d7ca-1d7cd 1d800-1fffd 2a6d7-2f7ff",
     "2fa1e-2fffd 30000-3fffd 40000-4fffd 50000-5fffd 60000-6fffd 70000-7fffd 80000-8fffd",
     "90000-9fffd a0000-afffd b0000-bfffd c0000-cfffd d0000-dfffd e0000 e0002-e001f",
     "e0080-efffd"]

def leftToRight : CodeTable :=
  CodeTable.ofLines
    ["41-5a 61-7a aa b5 ba c0-d6 d8-f6 f8-2b8 2bb-2c1 2d0-2d1 2e0-2e4 2ee 370-373 376-37d",
     "37f-383 386 388-3f5 3f7-482 48a-589 58b-58c 903-939 93b 93d-940 949-94c 94e-950 958-961",
     "964-980 982-9bb 9bd-9c0 9c5-9cc 9ce-9e1 9e4-9f1 9f4-9fa 9fc-9fd 9ff-a00 a03-a3b a3d-a40",
     "a43-a46 a49-a4a a4e-a50 a52-a6f a72-a74 a76-a80 a83-abb abd-ac0 ac6 ac9-acc ace-ae1",
     "ae4-af0 af2-af9 b00 b02-b3b b3d-b3e b40 b45-b4c b4e-b54 b57-b61 b64-b81 b83-bbf bc1-bcc",
     "bce-bf2 bfb-bff c01-c03 c05-c3b c3d c41-c45 c49 c4e-c54 c57-c61 c64-c77 c7f-c80 c82-cbb",
     "cbd-ccb cce-ce1 ce4-cff d02-d3a d3d-d40 d45-d4c d4e-d61 d64-d80 d82-dc9 dcb-dd1 dd5",
     "dd7-e30 e32-e33 e3b-e3e e40-e46 e4f-eb0 eb2-eb3 ebd-ec7 ecf-f17 f1a-f34 f36 f38 f3e-f70",
     "f7f f85 f88-f8c f98 fbd-fc5 fc7-102c 1031 1038 103b-103c 103f-1057 105a-105d 1061-1070",
     "1075-1081 1083-1084 1087-108c 108e-109c 109e-135c 1360-138f 139a-13ff 1401-167f",
     "1681-169a 169d-1711 1715-1731 1734-1751 1754-1771 1774-17b3 17b6 17be-17c5 17c7-17c8",
     "17d4-17da 17dc 17de-17ef 17fa-17ff 1810-1884 1887-18a8 18aa-191f 1923-1926 1929-1931",
     "1933-1938 193c-193f 1941-1943 1946-19dd 1a00-1a16 1a19-1a1a 1a1c-1a55 1a57 1a5f 1a61",
     "1a63-1a64 1a6d-1a72 1a7d-1a7e 1a80-1aaf 1acf-1aff 1b04-1b33 1b35 1b3b 1b3d-1b41",
     "1b43-1b6a 1b74-1b7f 1b82-1ba1 1ba6-1ba7 1baa 1bae-1be5 1be7 1bea-1bec 1bee 1bf2-1c2b",
     "1c34-1c35 1c38-1ccf 1cd3 1ce1 1ce9-1cec 1cee-1cf3 1cf5-1cf7 1cfa-1dbf 1e00-1fbc 1fbe",
     "1fc2-1fcc 1fd0-1fdc 1fe0-1fec 1ff0-1ffc 1fff 200e 2071-2073 207f 208f-209f 20f1-20ff",
     "2102 2107 210a-2113 2115 2119-211d 2124 2126 2128 212a-212d 212f-2139 213c-213f",
     "2145-2149 214e-214f 2160-2188 218c-218f 2336-237a 2395 2427-243f 244b-245f 249c-24e9",
     "26ac 2800-28ff 2b74-2b75 2b96 2c00-2ce4 2ceb-2cee 2cf2-2cf8 2d00-2d7e 2d80-2ddf",
     "2e5e-2e7f 2e9a 2ef4-2eff 2fd6-2fef 2ffc-2fff 3005-3007 3021-3029 302e-302f 3031-3035",
     "3038-303c 3040-3098 309d-309f 30a1-30fa 30fc-31bf 31e4-321c 321f-324f 3260-327b",
     "327f-32b0 32c0-32cb 32d0-3376 337b-33dd 33e0-33fe 3400-4dbf 4e00-a48f a4c7-a60c",
     "a610-a66e a680-a69d a6a0-a6ef a6f2-a6ff a722-a787 a789-a801 a803-a805 a807-a80a",
     "a80c-a824 a827 a82d-a837 a83a-a873 a878-a8c3 a8c6-a8df a8f2-a8fe a900-a925 a92e-a946",
     "a952-a97f a983-a9b2 a9b4-a9b5 a9ba-a9bb a9be-a9e4 a9e6-aa28 aa2f-aa30 aa33-aa34",
     "aa37-aa42 aa44-aa4b aa4d-aa7b aa7d-aaaf aab1 aab5-aab6 aab9-aabd aac0 aac2-aaeb",
     "aaee-aaf5 aaf7-ab69 ab6c-abe4 abe6-abe7 abe9-abec abee-d7ff e000-fb1c fe1a-fe1f fe53",
     "fe67 fe6c-fe6f ff00 ff21-ff3a ff41-ff5a ff66-ffdf ffe7 ffef 10000-10100 10102-1013f",
     "1018d-1018f 1019d-1019f 101a1-101fc 101fe-102df 102fc-10375 1037b-107ff 11000",
     "11002-11037 11047-11051 11066-1106f 11071-11072 11075-1107e 11082-110b2 110b7-110b8",
     "110bb-110c1 110c3-110ff 11103-11126 1112c 11135-11172 11174-1117f 11182-111b5",
     "111bf-111c8 111cd-111ce 111d0-1122e 11232-11233 11235 11238-1123d 1123f-11240",
     "11242-112de 112e0-112e2 112eb-112ff 11302-1133a 1133d-1133f 11341-11365 1136d-1136f",
     "11375-11437 11440-11441 11445 11447-1145d 1145f-114b2 114b9 114bb-114be 114c1",
     "114c4-115b1 115b6-115bb 115be 115c1-115db 115de-11632 1163b-1163c 1163e 11641-1165f",
     "1166d-116aa 116ac 116ae-116af 116b6 116b8-1171c 11720-11721 11726 1172c-1182e 11838",
     "1183b-1193a 1193d 1193f-11942 11944-119d3 119d8-119d9 119dc-119df 119e1-11a00",
     "11a07-11a08 11a0b-11a32 11a39-11a3a 11a3f-11a46 11a48-11a50 11a57-11a58 11a5c-11a89",
     "11a97 11a9a-11c2f 11c37 11c3e-11c91 11ca8-11ca9 11cb1 11cb4 11cb7-11d30 11d37-11d39",
     "11d3b 11d3e 11d46 11d48-11d8f 11d92-11d94 11d96 11d98-11ef2 11ef5-11eff 11f02-11f35",
     "11f3b-11f3f 11f41 11f43-11fd4 11ff2-1343f 13441-13446 13456-16aef 16af5-16b2f",
     "16b37-16f4e 16f50-16f8e 16f93-16fe1 16fe3 16fe5-1bc9c 1bc9f 1bca4-1ceff 1cf2e-1cf2f",
     "1cf47-1d166 1d16a-1d172 1d183-1d184 1d18c-1d1a9 1d1ae-1d1e8 1d1eb-1d1ff 1d246-1d2ff",
     "1d357-1d6da 1d6dc-1d714 1d716-1d74e 1d750-1d788 1d78a-1d7c2 1d7c4-1d7cd 1d800-1d9ff",
     "1da37-1da3a 1da6d-1da74 1da76-1da83 1da85-1da9a 1daa0 1dab0-1dfff 1e007 1e019-1e01a",
     "1e022 1e025 1e02b-1e08e 1e090-1e12f 1e137-1e2ad 1e2af-1e2eb 1e2f0-1e2fe 1e300-1e4eb",
     "1e4f0-1e7ff 1f02c-1f02f 1f094-1f09f 1f0af-1f0b0 1f0c0 1f0d0 1f0f6-1f0ff 1f110-1f12e",
     "1f130-1f169 1f170-1f1ac 1f1ae-1f25f 1f266-1f2ff 1f6d8-1f6db 1f6ed-1f6ef 1f6fd-1f6ff",
     "1f777-1f77a 1f7da-1f7df 1f7ec-1f7ef 1f7f1-1f7ff 1f80c-1f80f 1f848-1f84f 1f85a-1f85f",
     "1f888-1f88f 1f8ae-1f8af 1f8b2-1f8ff 1fa54-1fa5f 1fa6e-1fa6f 1fa7d-1fa7f 1fa89-1fa8f",
     "1fabe 1fac6-1facd 1fadc-1fadf 1fae9-1faef 1faf9-1faff 1fb93 1fbcb-1fbef 1fbfa-1fffd",
     "20000-2fffd 30000-3fffd 40000-4fffd 50000-5fffd 60000-6fffd 70000-7fffd 80000-8fffd",
     "90000-9fffd a0000-afffd b0000-bfffd c0000-cfffd d0000-dfffd e1000-efffd f0000-ffffd",
     "100000-10fffd"]

def rightToLeft : CodeTable :=
  CodeTable.ofLines
    ["590 5be 5c0 5c3 5c6 5c8-5ff 608 60b 60d 61b-64a 66d-66f 671-6d5 6e5-6e6 6ee-6ef 6fa-710",
     "712-72f 74b-7a5 7b1-7ea 7f4-7f5 7fa-7fc 7fe-815 81a 824 828 82e-858 85c-88f 892-897",
     "8a0-8c9 200f fb1d fb1f-fb28 fb2a-fd3d fd50-fdce fdf0-fdfc fe70-fefe 10800-1091e",
     "10920-10a00 10a04 10a07-10a0b 10a10-10a37 10a3b-10a3e 10a40-10ae4 10ae7-10b38",
     "10b40-10d23 10d28-10d2f 10d3a-10e5f 10e7f-10eaa 10ead-10efc 10f00-10f45 10f51-10f81",
     "10f86-10fff 1e800-1e8cf 1e8d7-1e943 1e94b-1eeef 1eef2-1efff"]

end CatalogSteward.Text
