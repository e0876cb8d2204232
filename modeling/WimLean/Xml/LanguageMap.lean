import WimLean.Basic

/-!
# WimLean — the language table of `xml_windows.c`

`set_default_language` names the default language of a Windows image after the
`InstallLanguage` value of its SYSTEM hive, a Windows language ID, through
`language_id_to_name`: a binary search of `language_id_map`, which holds the IDs sorted
numerically, each with the offset of its name in `language_names`, where every name ends with
a NUL.

`languageIdToName_eq_lookup` says that the binary search agrees with a plain lookup of the
table, for every ID: it reads only entries of the array, returns the name the table gives the
ID, and `NULL` for an ID the table does not have; and the name it returns ends, with its NUL,
inside `language_names`. The search is proved for any table whose IDs increase
(`languageIdSearch_eq`); that `language_id_map` is one, and that its offsets point into
`language_names`, is computed.
-/

namespace WimLean

/-! ## The table -/

/-- `language_id_map`: each Windows language ID (`id`) with the offset of its name in
`language_names` (`name_start_offset`). Both fields are `u16`, here as `Nat`. -/
def languageIdMap : List (Nat × Nat) := [
  (0x0000, 0), (0x0001, 6), (0x0002, 12), (0x0003, 18),
  (0x0004, 24), (0x0005, 30), (0x0006, 36), (0x0007, 42),
  (0x0008, 48), (0x0009, 54), (0x000a, 60), (0x000b, 66),
  (0x000c, 72), (0x000d, 78), (0x000e, 84), (0x000f, 90),
  (0x0010, 96), (0x0011, 102), (0x0012, 108), (0x0013, 114),
  (0x0014, 120), (0x0015, 126), (0x0016, 132), (0x0017, 138),
  (0x0018, 144), (0x0019, 150), (0x001a, 156), (0x001b, 162),
  (0x001c, 168), (0x001d, 174), (0x001e, 180), (0x001f, 186),
  (0x0020, 192), (0x0021, 198), (0x0022, 204), (0x0023, 210),
  (0x0024, 216), (0x0025, 222), (0x0026, 228), (0x0027, 234),
  (0x0028, 240), (0x0029, 251), (0x002a, 257), (0x002b, 263),
  (0x002c, 269), (0x002d, 280), (0x002e, 286), (0x002f, 293),
  (0x0030, 299), (0x0031, 305), (0x0032, 311), (0x0033, 317),
  (0x0034, 323), (0x0035, 329), (0x0036, 335), (0x0037, 341),
  (0x0038, 347), (0x0039, 353), (0x003a, 359), (0x003b, 365),
  (0x003c, 371), (0x003d, 377), (0x003e, 384), (0x003f, 390),
  (0x0040, 396), (0x0041, 402), (0x0042, 408), (0x0043, 414),
  (0x0044, 425), (0x0045, 431), (0x0046, 437), (0x0047, 443),
  (0x0048, 449), (0x0049, 455), (0x004a, 461), (0x004b, 467),
  (0x004c, 473), (0x004d, 479), (0x004e, 485), (0x004f, 491),
  (0x0050, 497), (0x0051, 503), (0x0052, 509), (0x0053, 515),
  (0x0054, 521), (0x0055, 527), (0x0056, 533), (0x0057, 539),
  (0x0058, 546), (0x0059, 553), (0x005a, 564), (0x005b, 571),
  (0x005c, 577), (0x005d, 589), (0x005e, 600), (0x005f, 606),
  (0x0060, 618), (0x0061, 629), (0x0062, 635), (0x0063, 641),
  (0x0064, 647), (0x0065, 654), (0x0066, 660), (0x0067, 667),
  (0x0068, 678), (0x0069, 689), (0x006a, 696), (0x006b, 702),
  (0x006c, 709), (0x006d, 716), (0x006e, 722), (0x006f, 728),
  (0x0070, 734), (0x0071, 740), (0x0072, 746), (0x0073, 752),
  (0x0074, 758), (0x0075, 764), (0x0076, 771), (0x0077, 778),
  (0x0078, 784), (0x0079, 790), (0x007a, 798), (0x007c, 805),
  (0x007e, 812), (0x007f, 818), (0x0080, 819), (0x0081, 825),
  (0x0082, 831), (0x0083, 837), (0x0084, 843), (0x0085, 850),
  (0x0086, 857), (0x0087, 869), (0x0088, 875), (0x008c, 881),
  (0x0091, 888), (0x0092, 894), (0x0400, 905), (0x0401, 911),
  (0x0402, 917), (0x0403, 923), (0x0404, 929), (0x0405, 935),
  (0x0406, 941), (0x0407, 947), (0x0408, 953), (0x0409, 959),
  (0x040a, 965), (0x040b, 978), (0x040c, 984), (0x040d, 990),
  (0x040e, 996), (0x040f, 1002), (0x0410, 1008), (0x0411, 1014),
  (0x0412, 1020), (0x0413, 1026), (0x0414, 1032), (0x0415, 1038),
  (0x0416, 1044), (0x0417, 1050), (0x0418, 1056), (0x0419, 1062),
  (0x041a, 1068), (0x041b, 1074), (0x041c, 1080), (0x041d, 1086),
  (0x041e, 1092), (0x041f, 1098), (0x0420, 1104), (0x0421, 1110),
  (0x0422, 1116), (0x0423, 1122), (0x0424, 1128), (0x0425, 1134),
  (0x0426, 1140), (0x0427, 1146), (0x0428, 1152), (0x0429, 1163),
  (0x042a, 1169), (0x042b, 1175), (0x042c, 1181), (0x042d, 1192),
  (0x042e, 1198), (0x042f, 1205), (0x0430, 1211), (0x0431, 1217),
  (0x0432, 1223), (0x0433, 1229), (0x0434, 1235), (0x0435, 1241),
  (0x0436, 1247), (0x0437, 1253), (0x0438, 1259), (0x0439, 1265),
  (0x043a, 1271), (0x043b, 1277), (0x043d, 1283), (0x043e, 1290),
  (0x043f, 1296), (0x0440, 1302), (0x0441, 1308), (0x0442, 1314),
  (0x0443, 1320), (0x0444, 1331), (0x0445, 1337), (0x0446, 1343),
  (0x0447, 1349), (0x0448, 1355), (0x0449, 1361), (0x044a, 1367),
  (0x044b, 1373), (0x044c, 1379), (0x044d, 1385), (0x044e, 1391),
  (0x044f, 1397), (0x0450, 1403), (0x0451, 1409), (0x0452, 1415),
  (0x0453, 1421), (0x0454, 1427), (0x0455, 1433), (0x0456, 1439),
  (0x0457, 1445), (0x0458, 1452), (0x0459, 1459), (0x045a, 1470),
  (0x045b, 1477), (0x045c, 1483), (0x045d, 1495), (0x045e, 1506),
  (0x045f, 1512), (0x0460, 1524), (0x0461, 1535), (0x0462, 1541),
  (0x0463, 1547), (0x0464, 1553), (0x0465, 1560), (0x0466, 1566),
  (0x0467, 1573), (0x0468, 1579), (0x0469, 1590), (0x046a, 1597),
  (0x046b, 1603), (0x046c, 1610), (0x046d, 1617), (0x046e, 1623),
  (0x046f, 1629), (0x0470, 1635), (0x0471, 1641), (0x0472, 1647),
  (0x0473, 1653), (0x0474, 1659), (0x0475, 1665), (0x0476, 1672),
  (0x0477, 1679), (0x0478, 1685), (0x0479, 1691), (0x047a, 1699),
  (0x047c, 1706), (0x047e, 1713), (0x0480, 1719), (0x0481, 1725),
  (0x0482, 1731), (0x0483, 1737), (0x0484, 1743), (0x0485, 1750),
  (0x0486, 1757), (0x0487, 1769), (0x0488, 1775), (0x048c, 1781),
  (0x0491, 1788), (0x0492, 1794), (0x0501, 1805), (0x05fe, 1814),
  (0x0800, 1824), (0x0801, 1830), (0x0803, 1836), (0x0804, 1851),
  (0x0807, 1857), (0x0809, 1863), (0x080a, 1869), (0x080c, 1875),
  (0x0810, 1881), (0x0813, 1887), (0x0814, 1893), (0x0816, 1899),
  (0x0818, 1905), (0x0819, 1911), (0x081a, 1917), (0x081d, 1928),
  (0x0820, 1934), (0x082c, 1940), (0x082e, 1951), (0x0832, 1958),
  (0x083b, 1964), (0x083c, 1970), (0x083e, 1976), (0x0843, 1982),
  (0x0845, 1993), (0x0846, 1999), (0x0849, 2010), (0x0850, 2016),
  (0x0859, 2027), (0x085d, 2038), (0x085f, 2049), (0x0860, 2061),
  (0x0861, 2072), (0x0867, 2078), (0x086b, 2089), (0x0873, 2096),
  (0x0901, 2102), (0x09ff, 2116), (0x0c00, 2126), (0x0c01, 2132),
  (0x0c04, 2138), (0x0c07, 2144), (0x0c09, 2150), (0x0c0a, 2156),
  (0x0c0c, 2162), (0x0c1a, 2168), (0x0c3b, 2179), (0x0c50, 2185),
  (0x0c51, 2196), (0x0c6b, 2202), (0x1000, 2209), (0x1001, 2220),
  (0x1004, 2226), (0x1007, 2232), (0x1009, 2238), (0x100a, 2244),
  (0x100c, 2250), (0x101a, 2256), (0x103b, 2262), (0x105f, 2269),
  (0x1401, 2281), (0x1404, 2287), (0x1407, 2293), (0x1409, 2299),
  (0x140a, 2305), (0x140c, 2311), (0x141a, 2317), (0x143b, 2328),
  (0x1801, 2335), (0x1809, 2341), (0x180a, 2347), (0x180c, 2353),
  (0x181a, 2359), (0x183b, 2370), (0x1c01, 2377), (0x1c09, 2383),
  (0x1c0a, 2389), (0x1c0c, 2395), (0x1c1a, 2402), (0x1c3b, 2413),
  (0x2000, 2420), (0x2001, 2426), (0x2009, 2432), (0x200a, 2438),
  (0x200c, 2444), (0x201a, 2450), (0x203b, 2461), (0x2400, 2468),
  (0x2401, 2474), (0x2409, 2480), (0x240a, 2487), (0x240c, 2493),
  (0x241a, 2499), (0x243b, 2510), (0x2800, 2517), (0x2801, 2523),
  (0x2809, 2529), (0x280a, 2535), (0x280c, 2541), (0x281a, 2547),
  (0x2c00, 2558), (0x2c01, 2564), (0x2c09, 2570), (0x2c0a, 2576),
  (0x2c0c, 2582), (0x2c1a, 2588), (0x3000, 2599), (0x3001, 2605),
  (0x3009, 2611), (0x300a, 2617), (0x300c, 2623), (0x301a, 2629),
  (0x3400, 2640), (0x3401, 2646), (0x3409, 2652), (0x340a, 2658),
  (0x340c, 2664), (0x3800, 2670), (0x3801, 2676), (0x3809, 2682),
  (0x380a, 2688), (0x380c, 2694), (0x3c00, 2700), (0x3c01, 2706),
  (0x3c09, 2712), (0x3c0a, 2718), (0x3c0c, 2724), (0x4000, 2730),
  (0x4001, 2736), (0x4009, 2742), (0x400a, 2748), (0x4400, 2754),
  (0x4409, 2760), (0x440a, 2766), (0x4800, 2772), (0x4809, 2778),
  (0x480a, 2784), (0x4c00, 2790), (0x4c0a, 2796), (0x500a, 2802),
  (0x540a, 2808), (0x580a, 2814), (0x5c0a, 2821), (0x641a, 2827),
  (0x681a, 2838), (0x6c1a, 2849), (0x701a, 2860), (0x703b, 2871),
  (0x742c, 2878), (0x743b, 2889), (0x7804, 2896), (0x7814, 2902),
  (0x781a, 2908), (0x782c, 2919), (0x783b, 2930), (0x7843, 2937),
  (0x7850, 2948), (0x785d, 2954), (0x785f, 2965), (0x7c04, 2977),
  (0x7c14, 2983), (0x7c1a, 2989), (0x7c28, 3000), (0x7c2e, 3011),
  (0x7c3b, 3018), (0x7c43, 3025), (0x7c46, 3036), (0x7c50, 3047),
  (0x7c59, 3058), (0x7c5c, 3069), (0x7c5d, 3081), (0x7c5f, 3092),
  (0x7c67, 3104), (0x7c68, 3115), (0x7c86, 3126), (0x7c92, 3138)]

/-- `language_names`: the names of the languages, each ended by a NUL; the adjacent literals of
the source are joined with `++`. -/
def languageNames : String :=
  "en-US\x00ar-SA\x00bg-BG\x00ca-ES\x00zh-CN\x00cs-CZ\x00da-DK\x00de-DE\x00el-GR\x00en-US\x00" ++
  "es-ES\x00fi-FI\x00fr-FR\x00he-IL\x00hu-HU\x00is-IS\x00it-IT\x00ja-JP\x00ko-KR\x00nl-NL\x00" ++
  "nb-NO\x00pl-PL\x00pt-BR\x00rm-CH\x00ro-RO\x00ru-RU\x00hr-HR\x00sk-SK\x00sq-AL\x00sv-SE\x00" ++
  "th-TH\x00tr-TR\x00ur-PK\x00id-ID\x00uk-UA\x00be-BY\x00sl-SI\x00et-EE\x00lv-LV\x00lt-LT\x00" ++
  "tg-Cyrl-TJ\x00fa-IR\x00vi-VN\x00hy-AM\x00az-Latn-AZ\x00eu-ES\x00hsb-DE\x00mk-MK\x00" ++
  "st-ZA\x00ts-ZA\x00tn-ZA\x00ve-ZA\x00xh-ZA\x00zu-ZA\x00af-ZA\x00ka-GE\x00fo-FO\x00hi-IN\x00" ++
  "mt-MT\x00se-NO\x00ga-IE\x00yi-001\x00ms-MY\x00kk-KZ\x00ky-KG\x00sw-KE\x00tk-TM\x00" ++
  "uz-Latn-UZ\x00tt-RU\x00bn-IN\x00pa-IN\x00gu-IN\x00or-IN\x00ta-IN\x00te-IN\x00kn-IN\x00" ++
  "ml-IN\x00as-IN\x00mr-IN\x00sa-IN\x00mn-MN\x00bo-CN\x00cy-GB\x00km-KH\x00lo-LA\x00my-MM\x00" ++
  "gl-ES\x00kok-IN\x00mni-IN\x00sd-Arab-PK\x00syr-SY\x00si-LK\x00chr-Cher-US\x00" ++
  "iu-Latn-CA\x00am-ET\x00tzm-Latn-DZ\x00ks-Arab-IN\x00ne-NP\x00fy-NL\x00ps-AF\x00" ++
  "fil-PH\x00dv-MV\x00bin-NG\x00ff-Latn-SN\x00ha-Latn-NG\x00ibb-NG\x00yo-NG\x00quz-BO\x00" ++
  "nso-ZA\x00ba-RU\x00lb-LU\x00kl-GL\x00ig-NG\x00kr-NG\x00om-ET\x00ti-ER\x00gn-PY\x00" ++
  "haw-US\x00la-001\x00so-SO\x00ii-CN\x00pap-029\x00arn-CL\x00moh-CA\x00br-FR\x00\x00" ++
  "ug-CN\x00mi-NZ\x00oc-FR\x00co-FR\x00gsw-FR\x00sah-RU\x00quc-Latn-GT\x00rw-RW\x00" ++
  "wo-SN\x00prs-AF\x00gd-GB\x00ku-Arab-IQ\x00en-US\x00ar-SA\x00bg-BG\x00ca-ES\x00zh-TW\x00" ++
  "cs-CZ\x00da-DK\x00de-DE\x00el-GR\x00en-US\x00es-ES_tradnl\x00fi-FI\x00fr-FR\x00he-IL\x00" ++
  "hu-HU\x00is-IS\x00it-IT\x00ja-JP\x00ko-KR\x00nl-NL\x00nb-NO\x00pl-PL\x00pt-BR\x00rm-CH\x00" ++
  "ro-RO\x00ru-RU\x00hr-HR\x00sk-SK\x00sq-AL\x00sv-SE\x00th-TH\x00tr-TR\x00ur-PK\x00id-ID\x00" ++
  "uk-UA\x00be-BY\x00sl-SI\x00et-EE\x00lv-LV\x00lt-LT\x00tg-Cyrl-TJ\x00fa-IR\x00vi-VN\x00" ++
  "hy-AM\x00az-Latn-AZ\x00eu-ES\x00hsb-DE\x00mk-MK\x00st-ZA\x00ts-ZA\x00tn-ZA\x00ve-ZA\x00" ++
  "xh-ZA\x00zu-ZA\x00af-ZA\x00ka-GE\x00fo-FO\x00hi-IN\x00mt-MT\x00se-NO\x00yi-001\x00" ++
  "ms-MY\x00kk-KZ\x00ky-KG\x00sw-KE\x00tk-TM\x00uz-Latn-UZ\x00tt-RU\x00bn-IN\x00pa-IN\x00" ++
  "gu-IN\x00or-IN\x00ta-IN\x00te-IN\x00kn-IN\x00ml-IN\x00as-IN\x00mr-IN\x00sa-IN\x00mn-MN\x00" ++
  "bo-CN\x00cy-GB\x00km-KH\x00lo-LA\x00my-MM\x00gl-ES\x00kok-IN\x00mni-IN\x00sd-Deva-IN\x00" ++
  "syr-SY\x00si-LK\x00chr-Cher-US\x00iu-Cans-CA\x00am-ET\x00tzm-Arab-MA\x00" ++
  "ks-Arab-IN\x00ne-NP\x00fy-NL\x00ps-AF\x00fil-PH\x00dv-MV\x00bin-NG\x00ff-NG\x00" ++
  "ha-Latn-NG\x00ibb-NG\x00yo-NG\x00quz-BO\x00nso-ZA\x00ba-RU\x00lb-LU\x00kl-GL\x00" ++
  "ig-NG\x00kr-NG\x00om-ET\x00ti-ET\x00gn-PY\x00haw-US\x00la-001\x00so-SO\x00ii-CN\x00" ++
  "pap-029\x00arn-CL\x00moh-CA\x00br-FR\x00ug-CN\x00mi-NZ\x00oc-FR\x00co-FR\x00gsw-FR\x00" ++
  "sah-RU\x00quc-Latn-GT\x00rw-RW\x00wo-SN\x00prs-AF\x00gd-GB\x00ku-Arab-IQ\x00" ++
  "qps-ploc\x00qps-ploca\x00en-US\x00ar-IQ\x00ca-ES-valencia\x00zh-CN\x00de-CH\x00" ++
  "en-GB\x00es-MX\x00fr-BE\x00it-CH\x00nl-BE\x00nn-NO\x00pt-PT\x00ro-MD\x00ru-MD\x00" ++
  "sr-Latn-CS\x00sv-FI\x00ur-IN\x00az-Cyrl-AZ\x00dsb-DE\x00tn-BW\x00se-SE\x00ga-IE\x00" ++
  "ms-BN\x00uz-Cyrl-UZ\x00bn-BD\x00pa-Arab-PK\x00ta-LK\x00mn-Mong-CN\x00sd-Arab-PK\x00" ++
  "iu-Latn-CA\x00tzm-Latn-DZ\x00ks-Deva-IN\x00ne-IN\x00ff-Latn-SN\x00quz-EC\x00" ++
  "ti-ER\x00qps-Latn-x-sh\x00qps-plocm\x00en-US\x00ar-EG\x00zh-HK\x00de-AT\x00en-AU\x00" ++
  "es-ES\x00fr-CA\x00sr-Cyrl-CS\x00se-FI\x00mn-Mong-MN\x00dz-BT\x00quz-PE\x00" ++
  "ks-Arab-IN\x00ar-LY\x00zh-SG\x00de-LU\x00en-CA\x00es-GT\x00fr-CH\x00hr-BA\x00smj-NO\x00" ++
  "tzm-Tfng-MA\x00ar-DZ\x00zh-MO\x00de-LI\x00en-NZ\x00es-CR\x00fr-LU\x00bs-Latn-BA\x00" ++
  "smj-SE\x00ar-MA\x00en-IE\x00es-PA\x00fr-MC\x00sr-Latn-BA\x00sma-NO\x00ar-TN\x00en-ZA\x00" ++
  "es-DO\x00fr-029\x00sr-Cyrl-BA\x00sma-SE\x00en-US\x00ar-OM\x00en-JM\x00es-VE\x00fr-RE\x00" ++
  "bs-Cyrl-BA\x00sms-FI\x00en-US\x00ar-YE\x00en-029\x00es-CO\x00fr-CD\x00sr-Latn-RS\x00" ++
  "smn-FI\x00en-US\x00ar-SY\x00en-BZ\x00es-PE\x00fr-SN\x00sr-Cyrl-RS\x00en-US\x00ar-JO\x00" ++
  "en-TT\x00es-AR\x00fr-CM\x00sr-Latn-ME\x00en-US\x00ar-LB\x00en-ZW\x00es-EC\x00fr-CI\x00" ++
  "sr-Cyrl-ME\x00en-US\x00ar-KW\x00en-PH\x00es-CL\x00fr-ML\x00en-US\x00ar-AE\x00en-ID\x00" ++
  "es-UY\x00fr-MA\x00en-US\x00ar-BH\x00en-HK\x00es-PY\x00fr-HT\x00en-US\x00ar-QA\x00en-IN\x00" ++
  "es-BO\x00en-US\x00en-MY\x00es-SV\x00en-US\x00en-SG\x00es-HN\x00en-US\x00es-NI\x00es-PR\x00" ++
  "es-US\x00es-419\x00es-CU\x00bs-Cyrl-BA\x00bs-Latn-BA\x00sr-Cyrl-RS\x00sr-Latn-RS\x00" ++
  "smn-FI\x00az-Cyrl-AZ\x00sms-FI\x00zh-CN\x00nn-NO\x00bs-Latn-BA\x00az-Latn-AZ\x00" ++
  "sma-SE\x00uz-Cyrl-UZ\x00mn-MN\x00iu-Cans-CA\x00tzm-Tfng-MA\x00zh-HK\x00nb-NO\x00" ++
  "sr-Latn-RS\x00tg-Cyrl-TJ\x00dsb-DE\x00smj-SE\x00uz-Latn-UZ\x00pa-Arab-PK\x00" ++
  "mn-Mong-CN\x00sd-Arab-PK\x00chr-Cher-US\x00iu-Latn-CA\x00tzm-Latn-DZ\x00" ++
  "ff-Latn-SN\x00ha-Latn-NG\x00quc-Latn-GT\x00ku-Arab-IQ\x00"

/-- The NUL-terminated string at offset `off` of a `char` array. -/
def cStringAt (s : String) (off : Nat) : String :=
  ⟨(s.data.drop off).takeWhile (· != '\x00')⟩

/-- `strlen` of the string at offset `off` of a `char` array of `s.length` bytes, and the copy
of its bytes up to the NUL: the string, or `none` when the NUL is not inside the array and the
scan reads past its end. -/
def cStringRead (s : String) (off : Nat) : Option String :=
  if off + (cStringAt s off).length < s.length then some (cStringAt s off) else none

/-- The IDs of a table increase strictly from each entry to the next. -/
def idsAscending : List (Nat × Nat) → Bool
  | a :: b :: rest => decide (a.1 < b.1) && idsAscending (b :: rest)
  | _ => true

set_option maxRecDepth 10000 in
theorem languageIdMap_length : languageIdMap.length = 452 := by decide

set_option maxRecDepth 10000 in
theorem languageIdMap_idsAscending : idsAscending languageIdMap = true := by decide

theorem languageNames_length : languageNames.length = 3149 := by
  simp only [languageNames, String.length_append]
  decide

theorem languageNames_getLast : languageNames.data.getLast? = some '\x00' := by
  simp only [languageNames, String.data_append, List.getLast?_append]
  decide

set_option maxRecDepth 10000 in
theorem languageIdMap_offsets : ∀ e ∈ languageIdMap, e.2 < languageNames.length := by
  have h : languageIdMap.all (fun e => e.2 < 3149) = true := by decide
  rw [languageNames_length]
  simpa using h

/-! ## The binary search -/

/-- `language_id_map[m]`; `none` when `m` lies outside the array, where the read is
undefined. -/
def entryAt (map : List (Nat × Nat)) (m : Int) : Option (Nat × Nat) :=
  if 0 ≤ m then map[m.toNat]? else none

/-- `(l + r) / 2`, C's division rounding towards zero, lies between `l` and `r`. -/
theorem tdiv_two_between {l r : Int} (h : l ≤ r) : l ≤ (l + r).tdiv 2 ∧ (l + r).tdiv 2 ≤ r := by
  rcases Int.le_total 0 (l + r) with hs | hs
  · rw [Int.tdiv_eq_ediv hs (by decide)]
    omega
  · have hn : (l + r).tdiv 2 = -((-(l + r)) / 2) := by
      rw [← Int.tdiv_eq_ediv (by omega) (by decide), Int.neg_tdiv, Int.neg_neg]
    rw [hn]
    omega

/-- The `do … while (l <= r)` loop of `language_id_to_name` over the table `map`, from bounds
with `l ≤ r`: the entry in the middle, then the half below or above it. `some none` is the
`NULL` after the loop, `none` a read outside the array. -/
def languageIdSearch (map : List (Nat × Nat)) (id : Nat) (l r : Int) (_ : l ≤ r) :
    Option (Option Nat) :=
  let m := (l + r).tdiv 2
  match entryAt map m with
  | none => none
  | some e =>
    if id < e.1 then
      if h' : l ≤ m - 1 then languageIdSearch map id l (m - 1) h' else some none
    else if id > e.1 then
      if h' : m + 1 ≤ r then languageIdSearch map id (m + 1) r h' else some none
    else some (some e.2)
termination_by (r - l).toNat
decreasing_by
  all_goals
    simp_wf
    have := tdiv_two_between ‹l ≤ r›
    omega

/-- `language_id_to_name(id)`: the offset in `language_names` of the name it returns, `none`
inside for `NULL`. -/
def languageIdToName (id : Nat) : Option (Option Nat) :=
  languageIdSearch languageIdMap id 0 (languageIdMap.length - 1)
    (by rw [languageIdMap_length]; decide)

/-! ## A lookup of the table -/

theorem pairwise_of_idsAscending :
    ∀ {map : List (Nat × Nat)}, idsAscending map = true → map.Pairwise (·.1 < ·.1)
  | [], _ => List.Pairwise.nil
  | [_], _ => List.pairwise_singleton _ _
  | a :: b :: rest, h => by
    simp only [idsAscending, Bool.and_eq_true, decide_eq_true_eq] at h
    have ih := pairwise_of_idsAscending h.2
    refine List.Pairwise.cons (fun c hc => ?_) ih
    rcases List.mem_cons.mp hc with rfl | hc
    · exact h.1
    · exact Nat.lt_trans h.1 (List.rel_of_pairwise_cons ih hc)

theorem lookup_getElem : ∀ {map : List (Nat × Nat)}, map.Pairwise (·.1 < ·.1) →
    ∀ {k : Nat} (hk : k < map.length), map.lookup map[k].1 = some map[k].2
  | (a, b) :: _, _, 0, _ => by simp [List.lookup]
  | (a, b) :: es, hs, k + 1, hk => by
    have hk' : k < es.length := Nat.lt_of_succ_lt_succ hk
    have hlt : a < es[k].1 := List.rel_of_pairwise_cons hs (List.getElem_mem _)
    have hne : (es[k].1 == a) = false := by simp only [beq_eq_false_iff_ne]; omega
    simp only [List.getElem_cons_succ, List.lookup, hne]
    exact lookup_getElem hs.of_cons hk'

theorem lookup_eq_none {map : List (Nat × Nat)} {id : Nat} (h : ∀ e ∈ map, e.1 ≠ id) :
    map.lookup id = none := by
  induction map with
  | nil => rfl
  | cons e es ih =>
    have hne : (id == e.1) = false := by
      simpa only [beq_eq_false_iff_ne] using (h e (List.mem_cons_self _ _)).symm
    simp only [List.lookup, hne]
    exact ih fun e' he' => h e' (List.mem_cons_of_mem _ he')

theorem mem_of_lookup_eq_some {map : List (Nat × Nat)} {id off : Nat}
    (h : map.lookup id = some off) : (id, off) ∈ map := by
  induction map with
  | nil => cases h
  | cons e es ih =>
    by_cases he : id = e.1
    · simp only [List.lookup, he, beq_self_eq_true, Option.some.injEq] at h
      rw [he, ← h]
      exact List.mem_cons_self _ _
    · simp only [List.lookup, beq_eq_false_iff_ne.mpr he] at h
      exact List.mem_cons_of_mem _ (ih h)

/-- In a table whose IDs increase, an entry's ID bounds those of the entries after it. -/
theorem fst_le_of_le {map : List (Nat × Nat)} (hs : map.Pairwise (·.1 < ·.1)) {i j : Nat}
    (hij : i ≤ j) (hj : j < map.length) : map[i].1 ≤ map[j].1 := by
  rcases Nat.lt_or_eq_of_le hij with h | rfl
  · exact Nat.le_of_lt (List.pairwise_iff_getElem.mp hs i j _ hj h)
  · exact Nat.le_refl _

/-! ## The search finds what the lookup finds -/

/-- **The loop finds what a lookup finds.** For a table whose IDs increase, from bounds inside
the array outside which no entry has the ID, the loop reads only entries of the array and
returns the offset the table gives the ID, and `NULL` when it has none. -/
theorem languageIdSearch_eq {map : List (Nat × Nat)} (hs : map.Pairwise (·.1 < ·.1)) (id : Nat) :
    ∀ (l r : Int) (h : l ≤ r), 0 ≤ l → r < map.length →
      (∀ k (hk : k < map.length), ((k : Int) < l ∨ r < k) → map[k].1 ≠ id) →
      languageIdSearch map id l r h = some (map.lookup id)
  | l, r, h, hl, hr, hout => by
    obtain ⟨hml, hmr⟩ := tdiv_two_between h
    have hmk : ((l + r).tdiv 2).toNat < map.length := by omega
    have hentry : entryAt map ((l + r).tdiv 2) = some map[((l + r).tdiv 2).toNat] := by
      simp only [entryAt, if_pos (show 0 ≤ (l + r).tdiv 2 by omega), List.getElem?_eq_getElem hmk]
    -- the entries from the middle on are above an ID below the middle's, and symmetrically
    have habove : ∀ k (hk : k < map.length), (l + r).tdiv 2 ≤ k →
        map[((l + r).tdiv 2).toNat].1 ≤ map[k].1 := fun k hk hmk' =>
      fst_le_of_le hs (by omega) hk
    have hbelow : ∀ k (hk : k < map.length), (k : Int) ≤ (l + r).tdiv 2 →
        map[k].1 ≤ map[((l + r).tdiv 2).toNat].1 := fun k hk hmk' =>
      fst_le_of_le hs (by omega) hmk
    rw [languageIdSearch, hentry]
    dsimp only
    split_ifs with hlt hl' hgt hr'
    · refine languageIdSearch_eq hs id l _ hl' hl (by omega) fun k hk hk' => ?_
      rcases hk' with hk' | hk'
      · exact hout k hk (.inl hk')
      by_cases hkr : (k : Int) ≤ r
      · have := habove k hk (by omega); omega
      · exact hout k hk (.inr (by omega))
    · refine (congrArg some (lookup_eq_none fun e he => ?_)).symm
      obtain ⟨k, hk, rfl⟩ := List.mem_iff_getElem.mp he
      by_cases hkr : l ≤ (k : Int) ∧ (k : Int) ≤ r
      · have := habove k hk (by omega); omega
      · exact hout k hk (by omega)
    · refine languageIdSearch_eq hs id _ r hr' (by omega) hr fun k hk hk' => ?_
      rcases hk' with hk' | hk'
      · by_cases hkl : l ≤ (k : Int)
        · have := hbelow k hk (by omega); omega
        · exact hout k hk (.inl (by omega))
      · exact hout k hk (.inr hk')
    · refine (congrArg some (lookup_eq_none fun e he => ?_)).symm
      obtain ⟨k, hk, rfl⟩ := List.mem_iff_getElem.mp he
      by_cases hkr : l ≤ (k : Int) ∧ (k : Int) ≤ r
      · have := hbelow k hk (by omega); omega
      · exact hout k hk (by omega)
    · have hid : id = map[((l + r).tdiv 2).toNat].1 := by omega
      rw [hid, lookup_getElem hs hmk]
termination_by l r => (r - l).toNat
decreasing_by
  all_goals
    simp_wf
    omega

/-- A `takeWhile` that stops at a NUL appended to a list keeps at most the list's elements. -/
theorem length_takeWhile_append_nul (xs : List Char) :
    ((xs ++ ['\x00']).takeWhile (· != '\x00')).length ≤ xs.length := by
  induction xs with
  | nil => decide
  | cons x xs ih =>
    rw [List.cons_append, List.takeWhile_cons]
    split
    · exact Nat.succ_le_succ ih
    · exact Nat.zero_le _

/-- The NUL-terminated string at an offset of an array that ends with a NUL ends inside it. -/
theorem cStringAt_length_lt {s : String} {off : Nat} (hlast : s.data.getLast? = some '\x00')
    (h : off < s.length) : off + (cStringAt s off).length < s.length := by
  obtain ⟨init, hinit⟩ : ∃ init, s.data = init ++ ['\x00'] :=
    ⟨s.data.dropLast, (List.dropLast_append_getLast? _ hlast).symm⟩
  have hlen : s.length = init.length + 1 := by
    show s.data.length = _
    rw [hinit, List.length_append, List.length_singleton]
  have hdrop : s.data.drop off = init.drop off ++ ['\x00'] := by
    rw [hinit, List.drop_append_of_le_length (by omega)]
  have hnul := length_takeWhile_append_nul (init.drop off)
  rw [List.length_drop] at hnul
  show off + ((s.data.drop off).takeWhile _).length < _
  rw [hdrop, hlen]
  omega

/-- `language_id_to_name` is a lookup of `language_id_map`: for every ID, the binary search
reads only entries of the array and returns the offset of the name the table gives the ID,
`NULL` when it gives none; and that name is read, with its NUL, inside `language_names`. -/
theorem languageIdToName_spec (id : Nat) :
    languageIdToName id = some (languageIdMap.lookup id) ∧
      ∀ off, languageIdMap.lookup id = some off →
        cStringRead languageNames off = some (cStringAt languageNames off) := by
  refine ⟨languageIdSearch_eq (pairwise_of_idsAscending languageIdMap_idsAscending) id _ _ _
    (Int.le_refl 0) (by omega) fun k hk hk' => by omega, fun off h => ?_⟩
  rw [cStringRead, if_pos (cStringAt_length_lt languageNames_getLast
    (languageIdMap_offsets _ (mem_of_lookup_eq_some h)))]

end WimLean
