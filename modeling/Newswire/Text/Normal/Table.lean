/-!
Compatibility forms of characters for the names of hosts. What a character stands for is told
after Unicode, version 3.2; the classes of marks, and which characters are written as one, after
version 14.
-/

namespace Newswire.Text.Normal

/-- Runs of characters that stand for one character each: the first code point, and what the
characters from there on stand for. -/
def singles : List (Nat × String) := [
  (0x02B0, "hɦjrɹɻʁwy"),
  (0x02E0, "ɣlsxʕ"),
  (0x2000, "           "),
  (0x2074, "456789+−=()n0123456789+−=()"),
  (0x210A, "gHHHhħIILl"),
  (0x2119, "PQRRR"),
  (0x2133, "Mo\u05d0\u05d1\u05d2\u05d3i"),
  (0x213D, "γΓΠ∑"),
  (0x2145, "Ddeij"),
  (0x216C, "LCDMi"),
  (0x217C, "lcdm"),
  (0x2460, "123456789"),
  (0x24B6, "ABCDEFGHIJKLMNOPQRSTUVWXYZabcdefghijklmnopqrstuvwxyz0"),
  (0x2F00, "一丨丶丿乙亅二亠人儿入八冂冖冫几凵刀力勹匕匚匸十卜卩厂厶又口囗土士夂夊夕大女子宀寸小尢尸屮山巛工己巾干幺广廴廾弋弓彐彡彳心戈戶手支攴文斗斤方无日曰月木欠止歹殳毋比毛氏气"),
  (0x2F54, "水火爪父爻爿片牙牛犬玄玉瓜瓦甘生用田疋疒癶白皮皿目矛矢石示禸禾穴立竹米糸缶网羊羽老而耒耳聿肉臣自至臼舌舛舟艮色艸虍虫血行衣襾見角言谷豆豕豸貝赤走足身車辛辰辵邑酉釆里金長"),
  (0x2FA8, "門阜隶隹雨靑非面革韋韭音頁風飛食首香馬骨高髟鬥鬯鬲鬼魚鳥鹵鹿麥麻黃黍黑黹黽鼎鼓鼠鼻齊齒龍龜龠"),
  (0x3131, "\u1100\u1101\u11aa\u1102\u11ac\u11ad\u1103\u1104\u1105\u11b0\u11b1\u11b2\u11b3\u11b4"),
  (0x313F, "\u11b5\u111a\u1106\u1107\u1108\u1121\u1109\u110a\u110b\u110c\u110d\u110e\u110f\u1110"),
  (0x314D, "\u1111\u1112\u1161\u1162\u1163\u1164\u1165\u1166\u1167\u1168\u1169\u116a\u116b\u116c"),
  (0x315B, "\u116d\u116e\u116f\u1170\u1171\u1172\u1173\u1174\u1175\u1160\u1114\u1115\u11c7\u11c8"),
  (0x3169, "\u11cc\u11ce\u11d3\u11d7\u11d9\u111c\u11dd\u11df\u111d\u111e\u1120\u1122\u1123\u1127"),
  (0x3177, "\u1129\u112b\u112c\u112d\u112e\u112f\u1132\u1136\u1140\u1147\u114c\u11f1\u11f2\u1157"),
  (0x3185, "\u1158\u1159\u1184\u1185\u1188\u1191\u1192\u1194\u119e\u11a1"),
  (0x3192, "一二三四上中下甲乙丙丁天地人"),
  (0x3260, "\u1100\u1102\u1103\u1105\u1106\u1107\u1109\u110b\u110c\u110e\u110f\u1110\u1111\u1112"),
  (0x3280, "一二三四五六七八九十月火水木金土日株有社名特財祝労秘男女適優印注項休写正上中下左右医宗学監企資協夜"),
  (0x32D0, "アイウエオカキクケコサシスセソタチツテトナニヌネノハヒフヘホマミムメモヤユヨラリルレロワヰヱヲ"),
  (0xF900, "豈更車賈滑串句龜龜契金喇奈懶癩羅蘿螺裸邏樂洛烙珞落酪駱亂卵欄爛蘭鸞嵐濫藍襤拉臘蠟廊朗浪狼郎來冷勞擄櫓爐盧老蘆虜路露魯鷺碌祿綠菉錄鹿論壟弄籠聾牢磊賂雷壘屢樓淚漏累縷陋勒肋"),
  (0xF954, "凜凌稜綾菱陵讀拏樂諾丹寧怒率異北磻便復不泌數索參塞省葉說殺辰沈拾若掠略亮兩凉梁糧良諒量勵呂女廬旅濾礪閭驪麗黎力曆歷轢年憐戀撚漣煉璉秊練聯輦蓮連鍊列劣咽烈裂說廉念捻殮簾獵"),
  (0xF9A8, "令囹寧嶺怜玲瑩羚聆鈴零靈領例禮醴隸惡了僚寮尿料樂燎療蓼遼龍暈阮劉杻柳流溜琉留硫紐類六戮陸倫崙淪輪律慄栗率隆利吏履易李梨泥理痢罹裏裡里離匿溺吝燐璘藺隣鱗麟林淋臨立笠粒狀炙"),
  (0xF9FC, "識什茶刺切度拓糖宅洞暴輻行降見廓兀嗀"),
  (0xFA15, "凞猪益礼神祥福靖精羽"),
  (0xFA2A, "飯飼館鶴"),
  (0xFA30, "侮僧免勉勤卑喝嘆器塀墨層屮悔慨憎懲敏既暑梅海渚漢煮爫琢碑社祉祈祐祖祝禍禎穀突節練縉繁署者臭艹艹著褐視謁謹賓贈辶逸難響頻"),
  (0xFB20, "\u05e2\u05d0\u05d3\u05d4\u05db\u05dc\u05dd\u05e8\u05ea+"),
  (0xFB50, "\u0671\u0671\u067b\u067b\u067b\u067b\u067e\u067e\u067e\u067e\u0680\u0680\u0680\u0680"),
  (0xFB5E, "\u067a\u067a\u067a\u067a\u067f\u067f\u067f\u067f\u0679\u0679\u0679\u0679\u06a4\u06a4"),
  (0xFB6C, "\u06a4\u06a4\u06a6\u06a6\u06a6\u06a6\u0684\u0684\u0684\u0684\u0683\u0683\u0683\u0683"),
  (0xFB7A, "\u0686\u0686\u0686\u0686\u0687\u0687\u0687\u0687\u068d\u068d\u068c\u068c\u068e\u068e"),
  (0xFB88, "\u0688\u0688\u0698\u0698\u0691\u0691\u06a9\u06a9\u06a9\u06a9\u06af\u06af\u06af\u06af"),
  (0xFB96, "\u06b3\u06b3\u06b3\u06b3\u06b1\u06b1\u06b1\u06b1\u06ba\u06ba\u06bb\u06bb\u06bb\u06bb"),
  (0xFBA6, "\u06c1\u06c1\u06c1\u06c1\u06be\u06be\u06be\u06be\u06d2\u06d2"),
  (0xFBD3, "\u06ad\u06ad\u06ad\u06ad\u06c7\u06c7\u06c6\u06c6\u06c8\u06c8"),
  (0xFBDE, "\u06cb\u06cb\u06c5\u06c5\u06c9\u06c9\u06d0\u06d0\u06d0\u06d0\u0649\u0649"),
  (0xFBFC, "\u06cc\u06cc\u06cc\u06cc"),
  (0xFE31, "—–__()\x7b\x7d〔〕【】《》〈〉「」『』"),
  (0xFE4D, "___,、."),
  (0xFE54, ";:?!—()\x7b\x7d〔〕#&*+-<>="),
  (0xFE68, "\\$%@"),
  (0xFE8D, "\u0627\u0627\u0628\u0628\u0628\u0628\u0629\u0629\u062a\u062a\u062a\u062a\u062b\u062b"),
  (0xFE9B, "\u062b\u062b\u062c\u062c\u062c\u062c\u062d\u062d\u062d\u062d\u062e\u062e\u062e\u062e"),
  (0xFEA9, "\u062f\u062f\u0630\u0630\u0631\u0631\u0632\u0632\u0633\u0633\u0633\u0633\u0634\u0634"),
  (0xFEB7, "\u0634\u0634\u0635\u0635\u0635\u0635\u0636\u0636\u0636\u0636\u0637\u0637\u0637\u0637"),
  (0xFEC5, "\u0638\u0638\u0638\u0638\u0639\u0639\u0639\u0639\u063a\u063a\u063a\u063a\u0641\u0641"),
  (0xFED3, "\u0641\u0641\u0642\u0642\u0642\u0642\u0643\u0643\u0643\u0643\u0644\u0644\u0644\u0644"),
  (0xFEE1, "\u0645\u0645\u0645\u0645\u0646\u0646\u0646\u0646\u0647\u0647\u0647\u0647\u0648\u0648"),
  (0xFEEF, "\u0649\u0649\u064a\u064a\u064a\u064a"),
  (0xFF01, "!\"#$%&'()*+,-./0123456789:;<=>?@ABCDEFGHIJKLMNOPQRSTUVWXYZ[\\]^_`abcdefghijklmnopqr"),
  (0xFF53, "stuvwxyz\x7b|\x7d~⦅⦆。「」、・ヲァィゥェォャュョッーアイウエオカキクケコサシスセソタチツテトナニヌネノハヒフヘホマミムメモヤユヨラリルレロワン"),
  (0xFF9E, "\u3099\u309a\u1160\u1100\u1101\u11aa\u1102\u11ac\u11ad\u1103\u1104\u1105\u11b0\u11b1"),
  (0xFFAC, "\u11b2\u11b3\u11b4\u11b5\u111a\u1106\u1107\u1108\u1121\u1109\u110a\u110b\u110c\u110d"),
  (0xFFBA, "\u110e\u110f\u1110\u1111\u1112"),
  (0xFFC2, "\u1161\u1162\u1163\u1164\u1165\u1166"),
  (0xFFCA, "\u1167\u1168\u1169\u116a\u116b\u116c"),
  (0xFFD2, "\u116d\u116e\u116f\u1170\u1171\u1172"),
  (0xFFE8, "│←↑→↓■○"),
  (0x1D400, "ABCDEFGHIJKLMNOPQRSTUVWXYZabcdefghijklmnopqrstuvwxyzABCDEFGHIJKLMNOPQRSTUVWXYZabcdef"),
  (0x1D454, "g"),
  (0x1D456, "ijklmnopqrstuvwxyzABCDEFGHIJKLMNOPQRSTUVWXYZabcdefghijklmnopqrstuvwxyzA"),
  (0x1D4A9, "NOPQ"),
  (0x1D4AE, "STUVWXYZabcd"),
  (0x1D4BD, "hijk"),
  (0x1D4C5, "pqrstuvwxyzABCDEFGHIJKLMNOPQRSTUVWXYZabcdefghijklmnopqrstuvwxyzAB"),
  (0x1D507, "DEFG"),
  (0x1D50D, "JKLMNOPQ"),
  (0x1D516, "STUVWXY"),
  (0x1D51E, "abcdefghijklmnopqrstuvwxyzAB"),
  (0x1D53B, "DEFG"),
  (0x1D540, "IJKLM"),
  (0x1D54A, "STUVWXY"),
  (0x1D552, "abcdefghijklmnopqrstuvwxyzABCDEFGHIJKLMNOPQRSTUVWXYZabcdefghijklmnopqrstuvwxyzABCDEF"),
  (0x1D5A6, "GHIJKLMNOPQRSTUVWXYZabcdefghijklmnopqrstuvwxyzABCDEFGHIJKLMNOPQRSTUVWXYZabcdefghijkl"),
  (0x1D5FA, "mnopqrstuvwxyzABCDEFGHIJKLMNOPQRSTUVWXYZabcdefghijklmnopqrstuvwxyzABCDEFGHIJKLMNOPQR"),
  (0x1D64E, "STUVWXYZabcdefghijklmnopqrstuvwxyzABCDEFGHIJKLMNOPQRSTUVWXYZabcdefghijklmnopqrstuvwx"),
  (0x1D6A2, "yz"),
  (0x1D6A8, "ΑΒΓΔΕΖΗΘΙΚΛΜΝΞΟΠΡΘΣΤΥΦΧΨΩ∇αβγδεζηθικλμνξοπρςστυφχψω∂εθκφρπΑΒΓΔΕΖΗΘΙΚΛΜΝΞΟΠΡΘΣΤΥΦΧΨΩ∇"),
  (0x1D6FC, "αβγδεζηθικλμνξοπρςστυφχψω∂εθκφρπΑΒΓΔΕΖΗΘΙΚΛΜΝΞΟΠΡΘΣΤΥΦΧΨΩ∇αβγδεζηθικλμνξοπρςστυφχψω∂"),
  (0x1D750, "εθκφρπΑΒΓΔΕΖΗΘΙΚΛΜΝΞΟΠΡΘΣΤΥΦΧΨΩ∇αβγδεζηθικλμνξοπρςστυφχψω∂εθκφρπΑΒΓΔΕΖΗΘΙΚΛΜΝΞΟΠΡΘΣΤ"),
  (0x1D7A4, "ΥΦΧΨΩ∇αβγδεζηθικλμνξοπρςστυφχψω∂εθκφρπ"),
  (0x1D7CE, "01234567890123456789012345678901234567890123456789"),
  (0x2F800, "丽丸乁𠄢你侮侻倂偺備僧像㒞𠘺免兔兤具𠔜㒹內再𠕋冗冤仌冬况𩇟凵刃㓟刻剆割剷㔕勇勉勤勺包匆北卉卑博即卽卿卿卿𠨬灰及叟𠭣叫叱吆咞吸呈周咢哶唐啓啣善善喙喫喳嗂圖嘆圗噑噴切壮城埴"),
  (0x2F854, "堍型堲報墬𡓤売壷夆多夢奢𡚨𡛪姬娛娧姘婦㛮𡍪嬈嬾嬾𡧈寃寘寧寳𡬘寿将弳尢㞁屠屮峀岍𡷤嵃𡷦嵮嵫嵼巡巢㠯巽帨帽幩㡢𢆃㡼庰庳庶廊𪎒廾𢌱𢌱舁弢弢㣇𣊸𦇚形彫㣣徚忍志忹悁㤺㤜悔𢛔惇慈慌"),
  (0x2F8A8, "慎慌慺憎憲憤憯懞懲懶成戛扝抱拔捐𢬌挽拼捨掃揤𢯱搢揅掩㨮摩摾撝摷㩬敏敬𣀊旣書晉㬙暑㬈㫤冒冕最暜肭䏙朗望朡杞杓𣏃㭉柺枅桒梅𣑭梎栟椔㮝楂榣槪檨𣚣櫛㰘次𣢧歔㱎歲殟殺殻𣪍𡴋𣫺汎𣲼"),
  (0x2F8FC, "沿泍汧洖派海流浩浸涅𣴞洴港湮㴳滋滇𣻑淹潮𣽞𣾎濆瀹瀞瀛㶖灊災灷炭𠔥煅𤉣熜䎫爨爵牐𤘈犀犕𤜵𤠔獺王㺬玥㺸㺸瑇瑜瑱璅瓊㼛甤𤰶甾𤲒異𢆟瘐𤾡𤾸𥁄㿼䀈直𥃳𥃲𥄙𥄳眞真真睊䀹瞋䁆䂖𥐝硎碌"),
  (0x2F950, "磌䃣𥘦祖𥚚𥛅福秫䄯穀穊穏𥥼𥪧𥪧窮䈂𥮫篆築䈧𥲀糒䊠糨糣紀𥾆絣䌁緇縂繅䌴𦈨𦉇䍙𦋙罺𦌾羕翺者𦓚𦔣聠𦖨聰𣍟䏕育脃䐋脾媵𦞧𦞵𣎓𣎜舁舄辞䑫芑芋芝劳花芳芽苦𦬼若茝荣莭茣莽菧著荓菊菌菜"),
  (0x2F9A4, "𦰶𦵫𦳕䔫蓱蓳蔖𧏊蕤𦼬䕝䕡𦾱𧃒䕫虐虜虧虩蚩蚈蜎蛢蝹蜨蝫螆䵗蟡蠁䗹衠衣𧙧裗裞䘵裺㒻𧢮𧥦䚾䛇誠諭變豕𧲨貫賁贛起𧼯𠠄跋趼跰𠣞軔輸𨗒𨗭邔郱鄑𨜮鄛鈸鋗鋘鉼鏹鐕𨯺開䦕閷𨵷䧦雃嶲霣𩅅𩈚"),
  (0x2F9F8, "䩮䩶韠𩐊䪲𩒖頋頋頩𩖶飢䬳餩馧駂駾䯎𩬰鬒鱀鳽䳎䳭鵧𪃎䳸𪄅𪈎𪊑麻䵖黹黾鼅鼏鼖鼻𪘀")]

/-- Characters, each with what it stands for after it. -/
def several : List String := [
  "\u00a0 ", "¨ \u0308", "ªa", "¯ \u0304", "²2", "³3", "´ \u0301", "µμ", "¸ \u0327", "¹1", "ºo",
  "¼1⁄4", "½1⁄2", "¾3⁄4", "ÀA\u0300", "ÁA\u0301", "ÂA\u0302", "ÃA\u0303", "ÄA\u0308", "ÅA\u030a",
  "ÇC\u0327", "ÈE\u0300", "ÉE\u0301", "ÊE\u0302", "ËE\u0308", "ÌI\u0300", "ÍI\u0301", "ÎI\u0302",
  "ÏI\u0308", "ÑN\u0303", "ÒO\u0300", "ÓO\u0301", "ÔO\u0302", "ÕO\u0303", "ÖO\u0308", "ÙU\u0300",
  "ÚU\u0301", "ÛU\u0302", "ÜU\u0308", "ÝY\u0301", "àa\u0300", "áa\u0301", "âa\u0302", "ãa\u0303",
  "äa\u0308", "åa\u030a", "çc\u0327", "èe\u0300", "ée\u0301", "êe\u0302", "ëe\u0308", "ìi\u0300",
  "íi\u0301", "îi\u0302", "ïi\u0308", "ñn\u0303", "òo\u0300", "óo\u0301", "ôo\u0302", "õo\u0303",
  "öo\u0308", "ùu\u0300", "úu\u0301", "ûu\u0302", "üu\u0308", "ýy\u0301", "ÿy\u0308", "ĀA\u0304",
  "āa\u0304", "ĂA\u0306", "ăa\u0306", "ĄA\u0328", "ąa\u0328", "ĆC\u0301", "ćc\u0301", "ĈC\u0302",
  "ĉc\u0302", "ĊC\u0307", "ċc\u0307", "ČC\u030c", "čc\u030c", "ĎD\u030c", "ďd\u030c", "ĒE\u0304",
  "ēe\u0304", "ĔE\u0306", "ĕe\u0306", "ĖE\u0307", "ėe\u0307", "ĘE\u0328", "ęe\u0328", "ĚE\u030c",
  "ěe\u030c", "ĜG\u0302", "ĝg\u0302", "ĞG\u0306", "ğg\u0306", "ĠG\u0307", "ġg\u0307", "ĢG\u0327",
  "ģg\u0327", "ĤH\u0302", "ĥh\u0302", "ĨI\u0303", "ĩi\u0303", "ĪI\u0304", "īi\u0304", "ĬI\u0306",
  "ĭi\u0306", "ĮI\u0328", "įi\u0328", "İI\u0307", "ĲIJ", "ĳij", "ĴJ\u0302", "ĵj\u0302", "ĶK\u0327",
  "ķk\u0327", "ĹL\u0301", "ĺl\u0301", "ĻL\u0327", "ļl\u0327", "ĽL\u030c", "ľl\u030c", "ĿL·", "ŀl·",
  "ŃN\u0301", "ńn\u0301", "ŅN\u0327", "ņn\u0327", "ŇN\u030c", "ňn\u030c", "ŉʼn", "ŌO\u0304",
  "ōo\u0304", "ŎO\u0306", "ŏo\u0306", "ŐO\u030b", "őo\u030b", "ŔR\u0301", "ŕr\u0301", "ŖR\u0327",
  "ŗr\u0327", "ŘR\u030c", "řr\u030c", "ŚS\u0301", "śs\u0301", "ŜS\u0302", "ŝs\u0302", "ŞS\u0327",
  "şs\u0327", "ŠS\u030c", "šs\u030c", "ŢT\u0327", "ţt\u0327", "ŤT\u030c", "ťt\u030c", "ŨU\u0303",
  "ũu\u0303", "ŪU\u0304", "ūu\u0304", "ŬU\u0306", "ŭu\u0306", "ŮU\u030a", "ůu\u030a", "ŰU\u030b",
  "űu\u030b", "ŲU\u0328", "ųu\u0328", "ŴW\u0302", "ŵw\u0302", "ŶY\u0302", "ŷy\u0302", "ŸY\u0308",
  "ŹZ\u0301", "źz\u0301", "ŻZ\u0307", "żz\u0307", "ŽZ\u030c", "žz\u030c", "ſs", "ƠO\u031b",
  "ơo\u031b", "ƯU\u031b", "ưu\u031b", "ǄDZ\u030c", "ǅDz\u030c", "ǆdz\u030c", "ǇLJ", "ǈLj", "ǉlj",
  "ǊNJ", "ǋNj", "ǌnj", "ǍA\u030c", "ǎa\u030c", "ǏI\u030c", "ǐi\u030c", "ǑO\u030c", "ǒo\u030c",
  "ǓU\u030c", "ǔu\u030c", "ǕU\u0308\u0304", "ǖu\u0308\u0304", "ǗU\u0308\u0301", "ǘu\u0308\u0301",
  "ǙU\u0308\u030c", "ǚu\u0308\u030c", "ǛU\u0308\u0300", "ǜu\u0308\u0300", "ǞA\u0308\u0304",
  "ǟa\u0308\u0304", "ǠA\u0307\u0304", "ǡa\u0307\u0304", "ǢÆ\u0304", "ǣæ\u0304", "ǦG\u030c",
  "ǧg\u030c", "ǨK\u030c", "ǩk\u030c", "ǪO\u0328", "ǫo\u0328", "ǬO\u0328\u0304", "ǭo\u0328\u0304",
  "ǮƷ\u030c", "ǯʒ\u030c", "ǰj\u030c", "ǱDZ", "ǲDz", "ǳdz", "ǴG\u0301", "ǵg\u0301", "ǸN\u0300",
  "ǹn\u0300", "ǺA\u030a\u0301", "ǻa\u030a\u0301", "ǼÆ\u0301", "ǽæ\u0301", "ǾØ\u0301", "ǿø\u0301",
  "ȀA\u030f", "ȁa\u030f", "ȂA\u0311", "ȃa\u0311", "ȄE\u030f", "ȅe\u030f", "ȆE\u0311", "ȇe\u0311",
  "ȈI\u030f", "ȉi\u030f", "ȊI\u0311", "ȋi\u0311", "ȌO\u030f", "ȍo\u030f", "ȎO\u0311", "ȏo\u0311",
  "ȐR\u030f", "ȑr\u030f", "ȒR\u0311", "ȓr\u0311", "ȔU\u030f", "ȕu\u030f", "ȖU\u0311", "ȗu\u0311",
  "ȘS\u0326", "șs\u0326", "ȚT\u0326", "țt\u0326", "ȞH\u030c", "ȟh\u030c", "ȦA\u0307", "ȧa\u0307",
  "ȨE\u0327", "ȩe\u0327", "ȪO\u0308\u0304", "ȫo\u0308\u0304", "ȬO\u0303\u0304", "ȭo\u0303\u0304",
  "ȮO\u0307", "ȯo\u0307", "ȰO\u0307\u0304", "ȱo\u0307\u0304", "ȲY\u0304", "ȳy\u0304", "˘ \u0306",
  "˙ \u0307", "˚ \u030a", "˛ \u0328", "˜ \u0303", "˝ \u030b", "\u0340\u0300", "\u0341\u0301",
  "\u0343\u0313", "\u0344\u0308\u0301", "ʹʹ", "ͺ \u0345", ";;", "΄ \u0301", "΅ \u0308\u0301",
  "ΆΑ\u0301", "··", "ΈΕ\u0301", "ΉΗ\u0301", "ΊΙ\u0301", "ΌΟ\u0301", "ΎΥ\u0301", "ΏΩ\u0301",
  "ΐι\u0308\u0301", "ΪΙ\u0308", "ΫΥ\u0308", "άα\u0301", "έε\u0301", "ήη\u0301", "ίι\u0301",
  "ΰυ\u0308\u0301", "ϊι\u0308", "ϋυ\u0308", "όο\u0301", "ύυ\u0301", "ώω\u0301", "ϐβ", "ϑθ", "ϒΥ",
  "ϓΥ\u0301", "ϔΥ\u0308", "ϕφ", "ϖπ", "ϰκ", "ϱρ", "ϲς", "ϴΘ", "ϵε", "ЀЕ\u0300", "ЁЕ\u0308",
  "ЃГ\u0301", "ЇІ\u0308", "ЌК\u0301", "ЍИ\u0300", "ЎУ\u0306", "ЙИ\u0306", "йи\u0306", "ѐе\u0300",
  "ёе\u0308", "ѓг\u0301", "їі\u0308", "ќк\u0301", "ѝи\u0300", "ўу\u0306", "ѶѴ\u030f", "ѷѵ\u030f",
  "ӁЖ\u0306", "ӂж\u0306", "ӐА\u0306", "ӑа\u0306", "ӒА\u0308", "ӓа\u0308", "ӖЕ\u0306", "ӗе\u0306",
  "ӚӘ\u0308", "ӛә\u0308", "ӜЖ\u0308", "ӝж\u0308", "ӞЗ\u0308", "ӟз\u0308", "ӢИ\u0304", "ӣи\u0304",
  "ӤИ\u0308", "ӥи\u0308", "ӦО\u0308", "ӧо\u0308", "ӪӨ\u0308", "ӫө\u0308", "ӬЭ\u0308", "ӭэ\u0308",
  "ӮУ\u0304", "ӯу\u0304", "ӰУ\u0308", "ӱу\u0308", "ӲУ\u030b", "ӳу\u030b", "ӴЧ\u0308", "ӵч\u0308",
  "ӸЫ\u0308", "ӹы\u0308", "ևեւ", "\u0622\u0627\u0653", "\u0623\u0627\u0654", "\u0624\u0648\u0654",
  "\u0625\u0627\u0655", "\u0626\u064a\u0654", "\u0675\u0627\u0674", "\u0676\u0648\u0674",
  "\u0677\u06c7\u0674", "\u0678\u064a\u0674", "\u06c0\u06d5\u0654", "\u06c2\u06c1\u0654",
  "\u06d3\u06d2\u0654", "ऩन\u093c", "ऱर\u093c", "ऴळ\u093c", "क़क\u093c", "ख़ख\u093c", "ग़ग\u093c",
  "ज़ज\u093c", "ड़ड\u093c", "ढ़ढ\u093c", "फ़फ\u093c", "य़य\u093c", "\u09cb\u09c7\u09be",
  "\u09cc\u09c7\u09d7", "ড়ড\u09bc", "ঢ়ঢ\u09bc", "য়য\u09bc", "ਲ਼ਲ\u0a3c", "ਸ਼ਸ\u0a3c", "ਖ਼ਖ\u0a3c",
  "ਗ਼ਗ\u0a3c", "ਜ਼ਜ\u0a3c", "ਫ਼ਫ\u0a3c", "\u0b48\u0b47\u0b56", "\u0b4b\u0b47\u0b3e",
  "\u0b4c\u0b47\u0b57", "ଡ଼ଡ\u0b3c", "ଢ଼ଢ\u0b3c", "ஔஒ\u0bd7", "\u0bca\u0bc6\u0bbe",
  "\u0bcb\u0bc7\u0bbe", "\u0bcc\u0bc6\u0bd7", "\u0c48\u0c46\u0c56", "\u0cc0\u0cbf\u0cd5",
  "\u0cc7\u0cc6\u0cd5", "\u0cc8\u0cc6\u0cd6", "\u0cca\u0cc6\u0cc2", "\u0ccb\u0cc6\u0cc2\u0cd5",
  "\u0d4a\u0d46\u0d3e", "\u0d4b\u0d47\u0d3e", "\u0d4c\u0d46\u0d57", "\u0dda\u0dd9\u0dca",
  "\u0ddc\u0dd9\u0dcf", "\u0ddd\u0dd9\u0dcf\u0dca", "\u0dde\u0dd9\u0ddf", "ำ\u0e4dา", "ຳ\u0ecdາ",
  "ໜຫນ", "ໝຫມ", "༌་", "གྷག\u0fb7", "ཌྷཌ\u0fb7", "དྷད\u0fb7", "བྷབ\u0fb7", "ཛྷཛ\u0fb7", "ཀྵཀ\u0fb5",
  "\u0f73\u0f71\u0f72", "\u0f75\u0f71\u0f74", "\u0f76\u0fb2\u0f80", "\u0f77\u0fb2\u0f71\u0f80",
  "\u0f78\u0fb3\u0f80", "\u0f79\u0fb3\u0f71\u0f80", "\u0f81\u0f71\u0f80", "\u0f93\u0f92\u0fb7",
  "\u0f9d\u0f9c\u0fb7", "\u0fa2\u0fa1\u0fb7", "\u0fa7\u0fa6\u0fb7", "\u0fac\u0fab\u0fb7",
  "\u0fb9\u0f90\u0fb5", "ဦဥ\u102e", "ḀA\u0325", "ḁa\u0325", "ḂB\u0307", "ḃb\u0307", "ḄB\u0323",
  "ḅb\u0323", "ḆB\u0331", "ḇb\u0331", "ḈC\u0327\u0301", "ḉc\u0327\u0301", "ḊD\u0307", "ḋd\u0307",
  "ḌD\u0323", "ḍd\u0323", "ḎD\u0331", "ḏd\u0331", "ḐD\u0327", "ḑd\u0327", "ḒD\u032d", "ḓd\u032d",
  "ḔE\u0304\u0300", "ḕe\u0304\u0300", "ḖE\u0304\u0301", "ḗe\u0304\u0301", "ḘE\u032d", "ḙe\u032d",
  "ḚE\u0330", "ḛe\u0330", "ḜE\u0327\u0306", "ḝe\u0327\u0306", "ḞF\u0307", "ḟf\u0307", "ḠG\u0304",
  "ḡg\u0304", "ḢH\u0307", "ḣh\u0307", "ḤH\u0323", "ḥh\u0323", "ḦH\u0308", "ḧh\u0308", "ḨH\u0327",
  "ḩh\u0327", "ḪH\u032e", "ḫh\u032e", "ḬI\u0330", "ḭi\u0330", "ḮI\u0308\u0301", "ḯi\u0308\u0301",
  "ḰK\u0301", "ḱk\u0301", "ḲK\u0323", "ḳk\u0323", "ḴK\u0331", "ḵk\u0331", "ḶL\u0323", "ḷl\u0323",
  "ḸL\u0323\u0304", "ḹl\u0323\u0304", "ḺL\u0331", "ḻl\u0331", "ḼL\u032d", "ḽl\u032d", "ḾM\u0301",
  "ḿm\u0301", "ṀM\u0307", "ṁm\u0307", "ṂM\u0323", "ṃm\u0323", "ṄN\u0307", "ṅn\u0307", "ṆN\u0323",
  "ṇn\u0323", "ṈN\u0331", "ṉn\u0331", "ṊN\u032d", "ṋn\u032d", "ṌO\u0303\u0301", "ṍo\u0303\u0301",
  "ṎO\u0303\u0308", "ṏo\u0303\u0308", "ṐO\u0304\u0300", "ṑo\u0304\u0300", "ṒO\u0304\u0301",
  "ṓo\u0304\u0301", "ṔP\u0301", "ṕp\u0301", "ṖP\u0307", "ṗp\u0307", "ṘR\u0307", "ṙr\u0307",
  "ṚR\u0323", "ṛr\u0323", "ṜR\u0323\u0304", "ṝr\u0323\u0304", "ṞR\u0331", "ṟr\u0331", "ṠS\u0307",
  "ṡs\u0307", "ṢS\u0323", "ṣs\u0323", "ṤS\u0301\u0307", "ṥs\u0301\u0307", "ṦS\u030c\u0307",
  "ṧs\u030c\u0307", "ṨS\u0323\u0307", "ṩs\u0323\u0307", "ṪT\u0307", "ṫt\u0307", "ṬT\u0323",
  "ṭt\u0323", "ṮT\u0331", "ṯt\u0331", "ṰT\u032d", "ṱt\u032d", "ṲU\u0324", "ṳu\u0324", "ṴU\u0330",
  "ṵu\u0330", "ṶU\u032d", "ṷu\u032d", "ṸU\u0303\u0301", "ṹu\u0303\u0301", "ṺU\u0304\u0308",
  "ṻu\u0304\u0308", "ṼV\u0303", "ṽv\u0303", "ṾV\u0323", "ṿv\u0323", "ẀW\u0300", "ẁw\u0300",
  "ẂW\u0301", "ẃw\u0301", "ẄW\u0308", "ẅw\u0308", "ẆW\u0307", "ẇw\u0307", "ẈW\u0323", "ẉw\u0323",
  "ẊX\u0307", "ẋx\u0307", "ẌX\u0308", "ẍx\u0308", "ẎY\u0307", "ẏy\u0307", "ẐZ\u0302", "ẑz\u0302",
  "ẒZ\u0323", "ẓz\u0323", "ẔZ\u0331", "ẕz\u0331", "ẖh\u0331", "ẗt\u0308", "ẘw\u030a", "ẙy\u030a",
  "ẚaʾ", "ẛs\u0307", "ẠA\u0323", "ạa\u0323", "ẢA\u0309", "ảa\u0309", "ẤA\u0302\u0301",
  "ấa\u0302\u0301", "ẦA\u0302\u0300", "ầa\u0302\u0300", "ẨA\u0302\u0309", "ẩa\u0302\u0309",
  "ẪA\u0302\u0303", "ẫa\u0302\u0303", "ẬA\u0323\u0302", "ậa\u0323\u0302", "ẮA\u0306\u0301",
  "ắa\u0306\u0301", "ẰA\u0306\u0300", "ằa\u0306\u0300", "ẲA\u0306\u0309", "ẳa\u0306\u0309",
  "ẴA\u0306\u0303", "ẵa\u0306\u0303", "ẶA\u0323\u0306", "ặa\u0323\u0306", "ẸE\u0323", "ẹe\u0323",
  "ẺE\u0309", "ẻe\u0309", "ẼE\u0303", "ẽe\u0303", "ẾE\u0302\u0301", "ếe\u0302\u0301",
  "ỀE\u0302\u0300", "ềe\u0302\u0300", "ỂE\u0302\u0309", "ểe\u0302\u0309", "ỄE\u0302\u0303",
  "ễe\u0302\u0303", "ỆE\u0323\u0302", "ệe\u0323\u0302", "ỈI\u0309", "ỉi\u0309", "ỊI\u0323",
  "ịi\u0323", "ỌO\u0323", "ọo\u0323", "ỎO\u0309", "ỏo\u0309", "ỐO\u0302\u0301", "ốo\u0302\u0301",
  "ỒO\u0302\u0300", "ồo\u0302\u0300", "ỔO\u0302\u0309", "ổo\u0302\u0309", "ỖO\u0302\u0303",
  "ỗo\u0302\u0303", "ỘO\u0323\u0302", "ộo\u0323\u0302", "ỚO\u031b\u0301", "ớo\u031b\u0301",
  "ỜO\u031b\u0300", "ờo\u031b\u0300", "ỞO\u031b\u0309", "ởo\u031b\u0309", "ỠO\u031b\u0303",
  "ỡo\u031b\u0303", "ỢO\u031b\u0323", "ợo\u031b\u0323", "ỤU\u0323", "ụu\u0323", "ỦU\u0309",
  "ủu\u0309", "ỨU\u031b\u0301", "ứu\u031b\u0301", "ỪU\u031b\u0300", "ừu\u031b\u0300",
  "ỬU\u031b\u0309", "ửu\u031b\u0309", "ỮU\u031b\u0303", "ữu\u031b\u0303", "ỰU\u031b\u0323",
  "ựu\u031b\u0323", "ỲY\u0300", "ỳy\u0300", "ỴY\u0323", "ỵy\u0323", "ỶY\u0309", "ỷy\u0309",
  "ỸY\u0303", "ỹy\u0303", "ἀα\u0313", "ἁα\u0314", "ἂα\u0313\u0300", "ἃα\u0314\u0300",
  "ἄα\u0313\u0301", "ἅα\u0314\u0301", "ἆα\u0313\u0342", "ἇα\u0314\u0342", "ἈΑ\u0313", "ἉΑ\u0314",
  "ἊΑ\u0313\u0300", "ἋΑ\u0314\u0300", "ἌΑ\u0313\u0301", "ἍΑ\u0314\u0301", "ἎΑ\u0313\u0342",
  "ἏΑ\u0314\u0342", "ἐε\u0313", "ἑε\u0314", "ἒε\u0313\u0300", "ἓε\u0314\u0300", "ἔε\u0313\u0301",
  "ἕε\u0314\u0301", "ἘΕ\u0313", "ἙΕ\u0314", "ἚΕ\u0313\u0300", "ἛΕ\u0314\u0300", "ἜΕ\u0313\u0301",
  "ἝΕ\u0314\u0301", "ἠη\u0313", "ἡη\u0314", "ἢη\u0313\u0300", "ἣη\u0314\u0300", "ἤη\u0313\u0301",
  "ἥη\u0314\u0301", "ἦη\u0313\u0342", "ἧη\u0314\u0342", "ἨΗ\u0313", "ἩΗ\u0314", "ἪΗ\u0313\u0300",
  "ἫΗ\u0314\u0300", "ἬΗ\u0313\u0301", "ἭΗ\u0314\u0301", "ἮΗ\u0313\u0342", "ἯΗ\u0314\u0342",
  "ἰι\u0313", "ἱι\u0314", "ἲι\u0313\u0300", "ἳι\u0314\u0300", "ἴι\u0313\u0301", "ἵι\u0314\u0301",
  "ἶι\u0313\u0342", "ἷι\u0314\u0342", "ἸΙ\u0313", "ἹΙ\u0314", "ἺΙ\u0313\u0300", "ἻΙ\u0314\u0300",
  "ἼΙ\u0313\u0301", "ἽΙ\u0314\u0301", "ἾΙ\u0313\u0342", "ἿΙ\u0314\u0342", "ὀο\u0313", "ὁο\u0314",
  "ὂο\u0313\u0300", "ὃο\u0314\u0300", "ὄο\u0313\u0301", "ὅο\u0314\u0301", "ὈΟ\u0313", "ὉΟ\u0314",
  "ὊΟ\u0313\u0300", "ὋΟ\u0314\u0300", "ὌΟ\u0313\u0301", "ὍΟ\u0314\u0301", "ὐυ\u0313", "ὑυ\u0314",
  "ὒυ\u0313\u0300", "ὓυ\u0314\u0300", "ὔυ\u0313\u0301", "ὕυ\u0314\u0301", "ὖυ\u0313\u0342",
  "ὗυ\u0314\u0342", "ὙΥ\u0314", "ὛΥ\u0314\u0300", "ὝΥ\u0314\u0301", "ὟΥ\u0314\u0342", "ὠω\u0313",
  "ὡω\u0314", "ὢω\u0313\u0300", "ὣω\u0314\u0300"]

def severalMore : List String := [
  "ὤω\u0313\u0301", "ὥω\u0314\u0301", "ὦω\u0313\u0342", "ὧω\u0314\u0342", "ὨΩ\u0313", "ὩΩ\u0314",
  "ὪΩ\u0313\u0300", "ὫΩ\u0314\u0300", "ὬΩ\u0313\u0301", "ὭΩ\u0314\u0301", "ὮΩ\u0313\u0342",
  "ὯΩ\u0314\u0342", "ὰα\u0300", "άα\u0301", "ὲε\u0300", "έε\u0301", "ὴη\u0300", "ήη\u0301",
  "ὶι\u0300", "ίι\u0301", "ὸο\u0300", "όο\u0301", "ὺυ\u0300", "ύυ\u0301", "ὼω\u0300", "ώω\u0301",
  "ᾀα\u0313\u0345", "ᾁα\u0314\u0345", "ᾂα\u0313\u0300\u0345", "ᾃα\u0314\u0300\u0345",
  "ᾄα\u0313\u0301\u0345", "ᾅα\u0314\u0301\u0345", "ᾆα\u0313\u0342\u0345", "ᾇα\u0314\u0342\u0345",
  "ᾈΑ\u0313\u0345", "ᾉΑ\u0314\u0345", "ᾊΑ\u0313\u0300\u0345", "ᾋΑ\u0314\u0300\u0345",
  "ᾌΑ\u0313\u0301\u0345", "ᾍΑ\u0314\u0301\u0345", "ᾎΑ\u0313\u0342\u0345", "ᾏΑ\u0314\u0342\u0345",
  "ᾐη\u0313\u0345", "ᾑη\u0314\u0345", "ᾒη\u0313\u0300\u0345", "ᾓη\u0314\u0300\u0345",
  "ᾔη\u0313\u0301\u0345", "ᾕη\u0314\u0301\u0345", "ᾖη\u0313\u0342\u0345", "ᾗη\u0314\u0342\u0345",
  "ᾘΗ\u0313\u0345", "ᾙΗ\u0314\u0345", "ᾚΗ\u0313\u0300\u0345", "ᾛΗ\u0314\u0300\u0345",
  "ᾜΗ\u0313\u0301\u0345", "ᾝΗ\u0314\u0301\u0345", "ᾞΗ\u0313\u0342\u0345", "ᾟΗ\u0314\u0342\u0345",
  "ᾠω\u0313\u0345", "ᾡω\u0314\u0345", "ᾢω\u0313\u0300\u0345", "ᾣω\u0314\u0300\u0345",
  "ᾤω\u0313\u0301\u0345", "ᾥω\u0314\u0301\u0345", "ᾦω\u0313\u0342\u0345", "ᾧω\u0314\u0342\u0345",
  "ᾨΩ\u0313\u0345", "ᾩΩ\u0314\u0345", "ᾪΩ\u0313\u0300\u0345", "ᾫΩ\u0314\u0300\u0345",
  "ᾬΩ\u0313\u0301\u0345", "ᾭΩ\u0314\u0301\u0345", "ᾮΩ\u0313\u0342\u0345", "ᾯΩ\u0314\u0342\u0345",
  "ᾰα\u0306", "ᾱα\u0304", "ᾲα\u0300\u0345", "ᾳα\u0345", "ᾴα\u0301\u0345", "ᾶα\u0342",
  "ᾷα\u0342\u0345", "ᾸΑ\u0306", "ᾹΑ\u0304", "ᾺΑ\u0300", "ΆΑ\u0301", "ᾼΑ\u0345", "᾽ \u0313", "ιι",
  "᾿ \u0313", "῀ \u0342", "῁ \u0308\u0342", "ῂη\u0300\u0345", "ῃη\u0345", "ῄη\u0301\u0345",
  "ῆη\u0342", "ῇη\u0342\u0345", "ῈΕ\u0300", "ΈΕ\u0301", "ῊΗ\u0300", "ΉΗ\u0301", "ῌΗ\u0345",
  "῍ \u0313\u0300", "῎ \u0313\u0301", "῏ \u0313\u0342", "ῐι\u0306", "ῑι\u0304", "ῒι\u0308\u0300",
  "ΐι\u0308\u0301", "ῖι\u0342", "ῗι\u0308\u0342", "ῘΙ\u0306", "ῙΙ\u0304", "ῚΙ\u0300", "ΊΙ\u0301",
  "῝ \u0314\u0300", "῞ \u0314\u0301", "῟ \u0314\u0342", "ῠυ\u0306", "ῡυ\u0304", "ῢυ\u0308\u0300",
  "ΰυ\u0308\u0301", "ῤρ\u0313", "ῥρ\u0314", "ῦυ\u0342", "ῧυ\u0308\u0342", "ῨΥ\u0306", "ῩΥ\u0304",
  "ῪΥ\u0300", "ΎΥ\u0301", "ῬΡ\u0314", "῭ \u0308\u0300", "΅ \u0308\u0301", "``", "ῲω\u0300\u0345",
  "ῳω\u0345", "ῴω\u0301\u0345", "ῶω\u0342", "ῷω\u0342\u0345", "ῸΟ\u0300", "ΌΟ\u0301", "ῺΩ\u0300",
  "ΏΩ\u0301", "ῼΩ\u0345", "´ \u0301", "῾ \u0314", "‑‐", "‗ \u0333", "․.", "‥..", "…...", "\u202f ",
  "″′′", "‴′′′", "‶‵‵", "‷‵‵‵", "‼!!", "‾ \u0305", "⁇??", "⁈?!", "⁉!?", "⁗′′′′", "\u205f ", "⁰0",
  "ⁱi", "₨Rs", "℀a/c", "℁a/s", "ℂC", "℃°C", "℅c/o", "℆c/u", "ℇƐ", "℉°F", "ℕN", "№No", "℠SM",
  "℡TEL", "™TM", "ℤZ", "ΩΩ", "ℨZ", "KK", "ÅA\u030a", "ℬB", "ℭC", "ℯe", "ℰE", "ℱF", "⅓1⁄3", "⅔2⁄3",
  "⅕1⁄5", "⅖2⁄5", "⅗3⁄5", "⅘4⁄5", "⅙1⁄6", "⅚5⁄6", "⅛1⁄8", "⅜3⁄8", "⅝5⁄8", "⅞7⁄8", "⅟1⁄", "ⅠI",
  "ⅡII", "ⅢIII", "ⅣIV", "ⅤV", "ⅥVI", "ⅦVII", "ⅧVIII", "ⅨIX", "ⅩX", "ⅪXI", "ⅫXII", "ⅱii", "ⅲiii",
  "ⅳiv", "ⅴv", "ⅵvi", "ⅶvii", "ⅷviii", "ⅸix", "ⅹx", "ⅺxi", "ⅻxii", "↚←\u0338", "↛→\u0338",
  "↮↔\u0338", "⇍⇐\u0338", "⇎⇔\u0338", "⇏⇒\u0338", "∄∃\u0338", "∉∈\u0338", "∌∋\u0338", "∤∣\u0338",
  "∦∥\u0338", "∬∫∫", "∭∫∫∫", "∯∮∮", "∰∮∮∮", "≁∼\u0338", "≄≃\u0338", "≇≅\u0338", "≉≈\u0338",
  "≠=\u0338", "≢≡\u0338", "≭≍\u0338", "≮<\u0338", "≯>\u0338", "≰≤\u0338", "≱≥\u0338", "≴≲\u0338",
  "≵≳\u0338", "≸≶\u0338", "≹≷\u0338", "⊀≺\u0338", "⊁≻\u0338", "⊄⊂\u0338", "⊅⊃\u0338", "⊈⊆\u0338",
  "⊉⊇\u0338", "⊬⊢\u0338", "⊭⊨\u0338", "⊮⊩\u0338", "⊯⊫\u0338", "⋠≼\u0338", "⋡≽\u0338", "⋢⊑\u0338",
  "⋣⊒\u0338", "⋪⊲\u0338", "⋫⊳\u0338", "⋬⊴\u0338", "⋭⊵\u0338", "〈〈", "〉〉", "⑩10", "⑪11", "⑫12",
  "⑬13", "⑭14", "⑮15", "⑯16", "⑰17", "⑱18", "⑲19", "⑳20", "⑴(1)", "⑵(2)", "⑶(3)", "⑷(4)", "⑸(5)",
  "⑹(6)", "⑺(7)", "⑻(8)", "⑼(9)", "⑽(10)", "⑾(11)", "⑿(12)", "⒀(13)", "⒁(14)", "⒂(15)", "⒃(16)",
  "⒄(17)", "⒅(18)", "⒆(19)", "⒇(20)", "⒈1.", "⒉2.", "⒊3.", "⒋4.", "⒌5.", "⒍6.", "⒎7.", "⒏8.",
  "⒐9.", "⒑10.", "⒒11.", "⒓12.", "⒔13.", "⒕14.", "⒖15.", "⒗16.", "⒘17.", "⒙18.", "⒚19.", "⒛20.",
  "⒜(a)", "⒝(b)", "⒞(c)", "⒟(d)", "⒠(e)", "⒡(f)", "⒢(g)", "⒣(h)", "⒤(i)", "⒥(j)", "⒦(k)", "⒧(l)",
  "⒨(m)", "⒩(n)", "⒪(o)", "⒫(p)", "⒬(q)", "⒭(r)", "⒮(s)", "⒯(t)", "⒰(u)", "⒱(v)", "⒲(w)", "⒳(x)",
  "⒴(y)", "⒵(z)", "⨌∫∫∫∫", "⩴::=", "⩵==", "⩶===", "⫝̸⫝\u0338", "⺟母", "⻳龟", "\u3000 ", "〶〒", "〸十",
  "〹卄", "〺卅", "がか\u3099", "ぎき\u3099", "ぐく\u3099", "げけ\u3099", "ごこ\u3099", "ざさ\u3099", "じし\u3099",
  "ずす\u3099", "ぜせ\u3099", "ぞそ\u3099", "だた\u3099", "ぢち\u3099", "づつ\u3099", "でて\u3099", "どと\u3099",
  "ばは\u3099", "ぱは\u309a", "びひ\u3099", "ぴひ\u309a", "ぶふ\u3099", "ぷふ\u309a", "べへ\u3099", "ぺへ\u309a",
  "ぼほ\u3099", "ぽほ\u309a", "ゔう\u3099", "゛ \u3099", "゜ \u309a", "ゞゝ\u3099", "ゟより", "ガカ\u3099",
  "ギキ\u3099", "グク\u3099", "ゲケ\u3099", "ゴコ\u3099", "ザサ\u3099", "ジシ\u3099", "ズス\u3099", "ゼセ\u3099",
  "ゾソ\u3099", "ダタ\u3099", "ヂチ\u3099", "ヅツ\u3099", "デテ\u3099", "ドト\u3099", "バハ\u3099", "パハ\u309a",
  "ビヒ\u3099", "ピヒ\u309a", "ブフ\u3099", "プフ\u309a", "ベヘ\u3099", "ペヘ\u309a", "ボホ\u3099", "ポホ\u309a",
  "ヴウ\u3099", "ヷワ\u3099", "ヸヰ\u3099", "ヹヱ\u3099", "ヺヲ\u3099", "ヾヽ\u3099", "ヿコト", "㈀(\u1100)",
  "㈁(\u1102)", "㈂(\u1103)", "㈃(\u1105)", "㈄(\u1106)", "㈅(\u1107)", "㈆(\u1109)", "㈇(\u110b)",
  "㈈(\u110c)", "㈉(\u110e)", "㈊(\u110f)", "㈋(\u1110)", "㈌(\u1111)", "㈍(\u1112)", "㈎(\u1100\u1161)",
  "㈏(\u1102\u1161)", "㈐(\u1103\u1161)", "㈑(\u1105\u1161)", "㈒(\u1106\u1161)", "㈓(\u1107\u1161)",
  "㈔(\u1109\u1161)", "㈕(\u110b\u1161)", "㈖(\u110c\u1161)", "㈗(\u110e\u1161)", "㈘(\u110f\u1161)",
  "㈙(\u1110\u1161)", "㈚(\u1111\u1161)", "㈛(\u1112\u1161)", "㈜(\u110c\u116e)", "㈠(一)", "㈡(二)",
  "㈢(三)", "㈣(四)", "㈤(五)", "㈥(六)", "㈦(七)", "㈧(八)", "㈨(九)", "㈩(十)", "㈪(月)", "㈫(火)", "㈬(水)", "㈭(木)",
  "㈮(金)", "㈯(土)", "㈰(日)", "㈱(株)", "㈲(有)", "㈳(社)", "㈴(名)", "㈵(特)", "㈶(財)", "㈷(祝)", "㈸(労)", "㈹(代)",
  "㈺(呼)", "㈻(学)", "㈼(監)", "㈽(企)", "㈾(資)", "㈿(協)", "㉀(祭)", "㉁(休)", "㉂(自)", "㉃(至)", "㉑21", "㉒22",
  "㉓23", "㉔24", "㉕25", "㉖26", "㉗27", "㉘28", "㉙29", "㉚30", "㉛31", "㉜32", "㉝33", "㉞34", "㉟35",
  "㉮\u1100\u1161", "㉯\u1102\u1161", "㉰\u1103\u1161", "㉱\u1105\u1161", "㉲\u1106\u1161",
  "㉳\u1107\u1161", "㉴\u1109\u1161", "㉵\u110b\u1161", "㉶\u110c\u1161", "㉷\u110e\u1161",
  "㉸\u110f\u1161", "㉹\u1110\u1161", "㉺\u1111\u1161", "㉻\u1112\u1161", "㊱36", "㊲37", "㊳38", "㊴39",
  "㊵40", "㊶41", "㊷42", "㊸43", "㊹44", "㊺45", "㊻46", "㊼47", "㊽48", "㊾49", "㊿50", "㋀1月", "㋁2月", "㋂3月",
  "㋃4月", "㋄5月", "㋅6月", "㋆7月", "㋇8月", "㋈9月", "㋉10月", "㋊11月", "㋋12月", "㌀アハ\u309aート", "㌁アルファ",
  "㌂アンヘ\u309aア", "㌃アール", "㌄イニンク\u3099", "㌅インチ", "㌆ウォン", "㌇エスクート\u3099", "㌈エーカー", "㌉オンス", "㌊オーム",
  "㌋カイリ", "㌌カラット", "㌍カロリー", "㌎カ\u3099ロン", "㌏カ\u3099ンマ", "㌐キ\u3099カ\u3099", "㌑キ\u3099ニー", "㌒キュリー",
  "㌓キ\u3099ルタ\u3099ー", "㌔キロ", "㌕キロク\u3099ラム", "㌖キロメートル", "㌗キロワット", "㌘ク\u3099ラム", "㌙ク\u3099ラムトン",
  "㌚クルセ\u3099イロ", "㌛クローネ", "㌜ケース", "㌝コルナ", "㌞コーホ\u309a", "㌟サイクル", "㌠サンチーム", "㌡シリンク\u3099", "㌢センチ",
  "㌣セント", "㌤タ\u3099ース", "㌥テ\u3099シ", "㌦ト\u3099ル", "㌧トン", "㌨ナノ", "㌩ノット", "㌪ハイツ", "㌫ハ\u309aーセント",
  "㌬ハ\u309aーツ", "㌭ハ\u3099ーレル", "㌮ヒ\u309aアストル", "㌯ヒ\u309aクル", "㌰ヒ\u309aコ", "㌱ヒ\u3099ル",
  "㌲ファラット\u3099", "㌳フィート", "㌴フ\u3099ッシェル", "㌵フラン", "㌶ヘクタール", "㌷ヘ\u309aソ", "㌸ヘ\u309aニヒ", "㌹ヘルツ",
  "㌺ヘ\u309aンス", "㌻ヘ\u309aーシ\u3099", "㌼ヘ\u3099ータ", "㌽ホ\u309aイント", "㌾ホ\u3099ルト", "㌿ホン",
  "㍀ホ\u309aント\u3099", "㍁ホール", "㍂ホーン", "㍃マイクロ", "㍄マイル", "㍅マッハ", "㍆マルク", "㍇マンション", "㍈ミクロン", "㍉ミリ",
  "㍊ミリハ\u3099ール", "㍋メカ\u3099", "㍌メカ\u3099トン", "㍍メートル", "㍎ヤート\u3099", "㍏ヤール", "㍐ユアン", "㍑リットル",
  "㍒リラ", "㍓ルヒ\u309aー", "㍔ルーフ\u3099ル", "㍕レム", "㍖レントケ\u3099ン", "㍗ワット", "㍘0点", "㍙1点", "㍚2点", "㍛3点",
  "㍜4点", "㍝5点", "㍞6点", "㍟7点", "㍠8点", "㍡9点", "㍢10点", "㍣11点", "㍤12点", "㍥13点", "㍦14点", "㍧15点", "㍨16点",
  "㍩17点", "㍪18点", "㍫19点", "㍬20点", "㍭21点", "㍮22点", "㍯23点", "㍰24点", "㍱hPa", "㍲da", "㍳AU", "㍴bar",
  "㍵oV", "㍶pc", "㍻平成", "㍼昭和", "㍽大正", "㍾明治", "㍿株式会社", "㎀pA", "㎁nA", "㎂μA", "㎃mA", "㎄kA", "㎅KB",
  "㎆MB", "㎇GB", "㎈cal", "㎉kcal", "㎊pF", "㎋nF", "㎌μF", "㎍μg", "㎎mg", "㎏kg", "㎐Hz", "㎑kHz", "㎒MHz",
  "㎓GHz", "㎔THz", "㎕μl", "㎖ml", "㎗dl", "㎘kl", "㎙fm", "㎚nm", "㎛μm", "㎜mm", "㎝cm", "㎞km", "㎟mm2",
  "㎠cm2", "㎡m2", "㎢km2", "㎣mm3", "㎤cm3", "㎥m3", "㎦km3", "㎧m∕s", "㎨m∕s2", "㎩Pa", "㎪kPa", "㎫MPa",
  "㎬GPa", "㎭rad", "㎮rad∕s", "㎯rad∕s2", "㎰ps", "㎱ns", "㎲μs", "㎳ms", "㎴pV", "㎵nV", "㎶μV", "㎷mV",
  "㎸kV", "㎹MV", "㎺pW", "㎻nW", "㎼μW", "㎽mW", "㎾kW", "㎿MW", "㏀kΩ", "㏁MΩ", "㏂a.m.", "㏃Bq", "㏄cc",
  "㏅cd", "㏆C∕kg", "㏇Co.", "㏈dB", "㏉Gy", "㏊ha", "㏋HP", "㏌in", "㏍KK", "㏎KM", "㏏kt", "㏐lm", "㏑ln",
  "㏒log", "㏓lx", "㏔mb", "㏕mil", "㏖mol", "㏗PH", "㏘p.m.", "㏙PPM", "㏚PR", "㏛sr", "㏜Sv", "㏝Wb", "㏠1日",
  "㏡2日", "㏢3日", "㏣4日", "㏤5日", "㏥6日", "㏦7日", "㏧8日", "㏨9日", "㏩10日", "㏪11日", "㏫12日", "㏬13日", "㏭14日",
  "㏮15日", "㏯16日", "㏰17日", "㏱18日", "㏲19日", "㏳20日", "㏴21日", "㏵22日", "㏶23日", "㏷24日", "㏸25日", "㏹26日",
  "㏺27日", "㏻28日", "㏼29日", "㏽30日", "㏾31日", "塚塚", "晴晴", "蘒蘒", "諸諸", "逸逸"]

def severalRest : List String := [
  "都都", "ﬀff", "ﬁfi", "ﬂfl", "ﬃffi", "ﬄffl", "ﬅst", "ﬆst", "ﬓմն", "ﬔմե", "ﬕմի", "ﬖվն", "ﬗմխ",
  "\ufb1d\u05d9\u05b4", "\ufb1f\u05f2\u05b7", "\ufb2a\u05e9\u05c1", "\ufb2b\u05e9\u05c2",
  "\ufb2c\u05e9\u05bc\u05c1", "\ufb2d\u05e9\u05bc\u05c2", "\ufb2e\u05d0\u05b7",
  "\ufb2f\u05d0\u05b8", "\ufb30\u05d0\u05bc", "\ufb31\u05d1\u05bc", "\ufb32\u05d2\u05bc",
  "\ufb33\u05d3\u05bc", "\ufb34\u05d4\u05bc", "\ufb35\u05d5\u05bc", "\ufb36\u05d6\u05bc",
  "\ufb38\u05d8\u05bc", "\ufb39\u05d9\u05bc", "\ufb3a\u05da\u05bc", "\ufb3b\u05db\u05bc",
  "\ufb3c\u05dc\u05bc", "\ufb3e\u05de\u05bc", "\ufb40\u05e0\u05bc", "\ufb41\u05e1\u05bc",
  "\ufb43\u05e3\u05bc", "\ufb44\u05e4\u05bc", "\ufb46\u05e6\u05bc", "\ufb47\u05e7\u05bc",
  "\ufb48\u05e8\u05bc", "\ufb49\u05e9\u05bc", "\ufb4a\u05ea\u05bc", "\ufb4b\u05d5\u05b9",
  "\ufb4c\u05d1\u05bf", "\ufb4d\u05db\u05bf", "\ufb4e\u05e4\u05bf", "\ufb4f\u05d0\u05dc",
  "\ufba4\u06d5\u0654", "\ufba5\u06d5\u0654", "\ufbb0\u06d2\u0654", "\ufbb1\u06d2\u0654",
  "\ufbdd\u06c7\u0674", "\ufbea\u064a\u0654\u0627", "\ufbeb\u064a\u0654\u0627",
  "\ufbec\u064a\u0654\u06d5", "\ufbed\u064a\u0654\u06d5", "\ufbee\u064a\u0654\u0648",
  "\ufbef\u064a\u0654\u0648", "\ufbf0\u064a\u0654\u06c7", "\ufbf1\u064a\u0654\u06c7",
  "\ufbf2\u064a\u0654\u06c6", "\ufbf3\u064a\u0654\u06c6", "\ufbf4\u064a\u0654\u06c8",
  "\ufbf5\u064a\u0654\u06c8", "\ufbf6\u064a\u0654\u06d0", "\ufbf7\u064a\u0654\u06d0",
  "\ufbf8\u064a\u0654\u06d0", "\ufbf9\u064a\u0654\u0649", "\ufbfa\u064a\u0654\u0649",
  "\ufbfb\u064a\u0654\u0649", "\ufc00\u064a\u0654\u062c", "\ufc01\u064a\u0654\u062d",
  "\ufc02\u064a\u0654\u0645", "\ufc03\u064a\u0654\u0649", "\ufc04\u064a\u0654\u064a",
  "\ufc05\u0628\u062c", "\ufc06\u0628\u062d", "\ufc07\u0628\u062e", "\ufc08\u0628\u0645",
  "\ufc09\u0628\u0649", "\ufc0a\u0628\u064a", "\ufc0b\u062a\u062c", "\ufc0c\u062a\u062d",
  "\ufc0d\u062a\u062e", "\ufc0e\u062a\u0645", "\ufc0f\u062a\u0649", "\ufc10\u062a\u064a",
  "\ufc11\u062b\u062c", "\ufc12\u062b\u0645", "\ufc13\u062b\u0649", "\ufc14\u062b\u064a",
  "\ufc15\u062c\u062d", "\ufc16\u062c\u0645", "\ufc17\u062d\u062c", "\ufc18\u062d\u0645",
  "\ufc19\u062e\u062c", "\ufc1a\u062e\u062d", "\ufc1b\u062e\u0645", "\ufc1c\u0633\u062c",
  "\ufc1d\u0633\u062d", "\ufc1e\u0633\u062e", "\ufc1f\u0633\u0645", "\ufc20\u0635\u062d",
  "\ufc21\u0635\u0645", "\ufc22\u0636\u062c", "\ufc23\u0636\u062d", "\ufc24\u0636\u062e",
  "\ufc25\u0636\u0645", "\ufc26\u0637\u062d", "\ufc27\u0637\u0645", "\ufc28\u0638\u0645",
  "\ufc29\u0639\u062c", "\ufc2a\u0639\u0645", "\ufc2b\u063a\u062c", "\ufc2c\u063a\u0645",
  "\ufc2d\u0641\u062c", "\ufc2e\u0641\u062d", "\ufc2f\u0641\u062e", "\ufc30\u0641\u0645",
  "\ufc31\u0641\u0649", "\ufc32\u0641\u064a", "\ufc33\u0642\u062d", "\ufc34\u0642\u0645",
  "\ufc35\u0642\u0649", "\ufc36\u0642\u064a", "\ufc37\u0643\u0627", "\ufc38\u0643\u062c",
  "\ufc39\u0643\u062d", "\ufc3a\u0643\u062e", "\ufc3b\u0643\u0644", "\ufc3c\u0643\u0645",
  "\ufc3d\u0643\u0649", "\ufc3e\u0643\u064a", "\ufc3f\u0644\u062c", "\ufc40\u0644\u062d",
  "\ufc41\u0644\u062e", "\ufc42\u0644\u0645", "\ufc43\u0644\u0649", "\ufc44\u0644\u064a",
  "\ufc45\u0645\u062c", "\ufc46\u0645\u062d", "\ufc47\u0645\u062e", "\ufc48\u0645\u0645",
  "\ufc49\u0645\u0649", "\ufc4a\u0645\u064a", "\ufc4b\u0646\u062c", "\ufc4c\u0646\u062d",
  "\ufc4d\u0646\u062e", "\ufc4e\u0646\u0645", "\ufc4f\u0646\u0649", "\ufc50\u0646\u064a",
  "\ufc51\u0647\u062c", "\ufc52\u0647\u0645", "\ufc53\u0647\u0649", "\ufc54\u0647\u064a",
  "\ufc55\u064a\u062c", "\ufc56\u064a\u062d", "\ufc57\u064a\u062e", "\ufc58\u064a\u0645",
  "\ufc59\u064a\u0649", "\ufc5a\u064a\u064a", "\ufc5b\u0630\u0670", "\ufc5c\u0631\u0670",
  "\ufc5d\u0649\u0670", "\ufc5e \u064c\u0651", "\ufc5f \u064d\u0651", "\ufc60 \u064e\u0651",
  "\ufc61 \u064f\u0651", "\ufc62 \u0650\u0651", "\ufc63 \u0651\u0670", "\ufc64\u064a\u0654\u0631",
  "\ufc65\u064a\u0654\u0632", "\ufc66\u064a\u0654\u0645", "\ufc67\u064a\u0654\u0646",
  "\ufc68\u064a\u0654\u0649", "\ufc69\u064a\u0654\u064a", "\ufc6a\u0628\u0631",
  "\ufc6b\u0628\u0632", "\ufc6c\u0628\u0645", "\ufc6d\u0628\u0646", "\ufc6e\u0628\u0649",
  "\ufc6f\u0628\u064a", "\ufc70\u062a\u0631", "\ufc71\u062a\u0632", "\ufc72\u062a\u0645",
  "\ufc73\u062a\u0646", "\ufc74\u062a\u0649", "\ufc75\u062a\u064a", "\ufc76\u062b\u0631",
  "\ufc77\u062b\u0632", "\ufc78\u062b\u0645", "\ufc79\u062b\u0646", "\ufc7a\u062b\u0649",
  "\ufc7b\u062b\u064a", "\ufc7c\u0641\u0649", "\ufc7d\u0641\u064a", "\ufc7e\u0642\u0649",
  "\ufc7f\u0642\u064a", "\ufc80\u0643\u0627", "\ufc81\u0643\u0644", "\ufc82\u0643\u0645",
  "\ufc83\u0643\u0649", "\ufc84\u0643\u064a", "\ufc85\u0644\u0645", "\ufc86\u0644\u0649",
  "\ufc87\u0644\u064a", "\ufc88\u0645\u0627", "\ufc89\u0645\u0645", "\ufc8a\u0646\u0631",
  "\ufc8b\u0646\u0632", "\ufc8c\u0646\u0645", "\ufc8d\u0646\u0646", "\ufc8e\u0646\u0649",
  "\ufc8f\u0646\u064a", "\ufc90\u0649\u0670", "\ufc91\u064a\u0631", "\ufc92\u064a\u0632",
  "\ufc93\u064a\u0645", "\ufc94\u064a\u0646", "\ufc95\u064a\u0649", "\ufc96\u064a\u064a",
  "\ufc97\u064a\u0654\u062c", "\ufc98\u064a\u0654\u062d", "\ufc99\u064a\u0654\u062e",
  "\ufc9a\u064a\u0654\u0645", "\ufc9b\u064a\u0654\u0647", "\ufc9c\u0628\u062c",
  "\ufc9d\u0628\u062d", "\ufc9e\u0628\u062e", "\ufc9f\u0628\u0645", "\ufca0\u0628\u0647",
  "\ufca1\u062a\u062c", "\ufca2\u062a\u062d", "\ufca3\u062a\u062e", "\ufca4\u062a\u0645",
  "\ufca5\u062a\u0647", "\ufca6\u062b\u0645", "\ufca7\u062c\u062d", "\ufca8\u062c\u0645",
  "\ufca9\u062d\u062c", "\ufcaa\u062d\u0645", "\ufcab\u062e\u062c", "\ufcac\u062e\u0645",
  "\ufcad\u0633\u062c", "\ufcae\u0633\u062d", "\ufcaf\u0633\u062e", "\ufcb0\u0633\u0645",
  "\ufcb1\u0635\u062d", "\ufcb2\u0635\u062e", "\ufcb3\u0635\u0645", "\ufcb4\u0636\u062c",
  "\ufcb5\u0636\u062d", "\ufcb6\u0636\u062e", "\ufcb7\u0636\u0645", "\ufcb8\u0637\u062d",
  "\ufcb9\u0638\u0645", "\ufcba\u0639\u062c", "\ufcbb\u0639\u0645", "\ufcbc\u063a\u062c",
  "\ufcbd\u063a\u0645", "\ufcbe\u0641\u062c", "\ufcbf\u0641\u062d", "\ufcc0\u0641\u062e",
  "\ufcc1\u0641\u0645", "\ufcc2\u0642\u062d", "\ufcc3\u0642\u0645", "\ufcc4\u0643\u062c",
  "\ufcc5\u0643\u062d", "\ufcc6\u0643\u062e", "\ufcc7\u0643\u0644", "\ufcc8\u0643\u0645",
  "\ufcc9\u0644\u062c", "\ufcca\u0644\u062d", "\ufccb\u0644\u062e", "\ufccc\u0644\u0645",
  "\ufccd\u0644\u0647", "\ufcce\u0645\u062c", "\ufccf\u0645\u062d", "\ufcd0\u0645\u062e",
  "\ufcd1\u0645\u0645", "\ufcd2\u0646\u062c", "\ufcd3\u0646\u062d", "\ufcd4\u0646\u062e",
  "\ufcd5\u0646\u0645", "\ufcd6\u0646\u0647", "\ufcd7\u0647\u062c", "\ufcd8\u0647\u0645",
  "\ufcd9\u0647\u0670", "\ufcda\u064a\u062c", "\ufcdb\u064a\u062d", "\ufcdc\u064a\u062e",
  "\ufcdd\u064a\u0645", "\ufcde\u064a\u0647", "\ufcdf\u064a\u0654\u0645",
  "\ufce0\u064a\u0654\u0647", "\ufce1\u0628\u0645", "\ufce2\u0628\u0647", "\ufce3\u062a\u0645",
  "\ufce4\u062a\u0647", "\ufce5\u062b\u0645", "\ufce6\u062b\u0647", "\ufce7\u0633\u0645",
  "\ufce8\u0633\u0647", "\ufce9\u0634\u0645", "\ufcea\u0634\u0647", "\ufceb\u0643\u0644",
  "\ufcec\u0643\u0645", "\ufced\u0644\u0645", "\ufcee\u0646\u0645", "\ufcef\u0646\u0647",
  "\ufcf0\u064a\u0645", "\ufcf1\u064a\u0647", "\ufcf2\u0640\u064e\u0651",
  "\ufcf3\u0640\u064f\u0651", "\ufcf4\u0640\u0650\u0651", "\ufcf5\u0637\u0649",
  "\ufcf6\u0637\u064a", "\ufcf7\u0639\u0649", "\ufcf8\u0639\u064a", "\ufcf9\u063a\u0649",
  "\ufcfa\u063a\u064a", "\ufcfb\u0633\u0649", "\ufcfc\u0633\u064a", "\ufcfd\u0634\u0649",
  "\ufcfe\u0634\u064a", "\ufcff\u062d\u0649", "\ufd00\u062d\u064a", "\ufd01\u062c\u0649",
  "\ufd02\u062c\u064a", "\ufd03\u062e\u0649", "\ufd04\u062e\u064a", "\ufd05\u0635\u0649",
  "\ufd06\u0635\u064a", "\ufd07\u0636\u0649", "\ufd08\u0636\u064a", "\ufd09\u0634\u062c",
  "\ufd0a\u0634\u062d", "\ufd0b\u0634\u062e", "\ufd0c\u0634\u0645", "\ufd0d\u0634\u0631",
  "\ufd0e\u0633\u0631", "\ufd0f\u0635\u0631", "\ufd10\u0636\u0631", "\ufd11\u0637\u0649",
  "\ufd12\u0637\u064a", "\ufd13\u0639\u0649", "\ufd14\u0639\u064a", "\ufd15\u063a\u0649",
  "\ufd16\u063a\u064a", "\ufd17\u0633\u0649", "\ufd18\u0633\u064a", "\ufd19\u0634\u0649",
  "\ufd1a\u0634\u064a", "\ufd1b\u062d\u0649", "\ufd1c\u062d\u064a", "\ufd1d\u062c\u0649",
  "\ufd1e\u062c\u064a", "\ufd1f\u062e\u0649", "\ufd20\u062e\u064a", "\ufd21\u0635\u0649",
  "\ufd22\u0635\u064a", "\ufd23\u0636\u0649", "\ufd24\u0636\u064a", "\ufd25\u0634\u062c",
  "\ufd26\u0634\u062d", "\ufd27\u0634\u062e", "\ufd28\u0634\u0645", "\ufd29\u0634\u0631",
  "\ufd2a\u0633\u0631", "\ufd2b\u0635\u0631", "\ufd2c\u0636\u0631", "\ufd2d\u0634\u062c",
  "\ufd2e\u0634\u062d", "\ufd2f\u0634\u062e", "\ufd30\u0634\u0645", "\ufd31\u0633\u0647",
  "\ufd32\u0634\u0647", "\ufd33\u0637\u0645", "\ufd34\u0633\u062c", "\ufd35\u0633\u062d",
  "\ufd36\u0633\u062e", "\ufd37\u0634\u062c", "\ufd38\u0634\u062d", "\ufd39\u0634\u062e",
  "\ufd3a\u0637\u0645", "\ufd3b\u0638\u0645", "\ufd3c\u0627\u064b", "\ufd3d\u0627\u064b",
  "\ufd50\u062a\u062c\u0645", "\ufd51\u062a\u062d\u062c", "\ufd52\u062a\u062d\u062c",
  "\ufd53\u062a\u062d\u0645", "\ufd54\u062a\u062e\u0645", "\ufd55\u062a\u0645\u062c",
  "\ufd56\u062a\u0645\u062d", "\ufd57\u062a\u0645\u062e", "\ufd58\u062c\u0645\u062d",
  "\ufd59\u062c\u0645\u062d", "\ufd5a\u062d\u0645\u064a", "\ufd5b\u062d\u0645\u0649",
  "\ufd5c\u0633\u062d\u062c", "\ufd5d\u0633\u062c\u062d", "\ufd5e\u0633\u062c\u0649",
  "\ufd5f\u0633\u0645\u062d", "\ufd60\u0633\u0645\u062d", "\ufd61\u0633\u0645\u062c",
  "\ufd62\u0633\u0645\u0645", "\ufd63\u0633\u0645\u0645", "\ufd64\u0635\u062d\u062d",
  "\ufd65\u0635\u062d\u062d", "\ufd66\u0635\u0645\u0645", "\ufd67\u0634\u062d\u0645",
  "\ufd68\u0634\u062d\u0645", "\ufd69\u0634\u062c\u064a", "\ufd6a\u0634\u0645\u062e",
  "\ufd6b\u0634\u0645\u062e", "\ufd6c\u0634\u0645\u0645", "\ufd6d\u0634\u0645\u0645",
  "\ufd6e\u0636\u062d\u0649", "\ufd6f\u0636\u062e\u0645", "\ufd70\u0636\u062e\u0645",
  "\ufd71\u0637\u0645\u062d", "\ufd72\u0637\u0645\u062d", "\ufd73\u0637\u0645\u0645",
  "\ufd74\u0637\u0645\u064a", "\ufd75\u0639\u062c\u0645", "\ufd76\u0639\u0645\u0645",
  "\ufd77\u0639\u0645\u0645", "\ufd78\u0639\u0645\u0649", "\ufd79\u063a\u0645\u0645",
  "\ufd7a\u063a\u0645\u064a", "\ufd7b\u063a\u0645\u0649", "\ufd7c\u0641\u062e\u0645",
  "\ufd7d\u0641\u062e\u0645", "\ufd7e\u0642\u0645\u062d", "\ufd7f\u0642\u0645\u0645",
  "\ufd80\u0644\u062d\u0645", "\ufd81\u0644\u062d\u064a", "\ufd82\u0644\u062d\u0649",
  "\ufd83\u0644\u062c\u062c", "\ufd84\u0644\u062c\u062c", "\ufd85\u0644\u062e\u0645",
  "\ufd86\u0644\u062e\u0645", "\ufd87\u0644\u0645\u062d", "\ufd88\u0644\u0645\u062d",
  "\ufd89\u0645\u062d\u062c", "\ufd8a\u0645\u062d\u0645", "\ufd8b\u0645\u062d\u064a",
  "\ufd8c\u0645\u062c\u062d", "\ufd8d\u0645\u062c\u0645", "\ufd8e\u0645\u062e\u062c",
  "\ufd8f\u0645\u062e\u0645", "\ufd92\u0645\u062c\u062e", "\ufd93\u0647\u0645\u062c",
  "\ufd94\u0647\u0645\u0645", "\ufd95\u0646\u062d\u0645", "\ufd96\u0646\u062d\u0649",
  "\ufd97\u0646\u062c\u0645", "\ufd98\u0646\u062c\u0645", "\ufd99\u0646\u062c\u0649",
  "\ufd9a\u0646\u0645\u064a", "\ufd9b\u0646\u0645\u0649", "\ufd9c\u064a\u0645\u0645",
  "\ufd9d\u064a\u0645\u0645", "\ufd9e\u0628\u062e\u064a", "\ufd9f\u062a\u062c\u064a",
  "\ufda0\u062a\u062c\u0649", "\ufda1\u062a\u062e\u064a", "\ufda2\u062a\u062e\u0649",
  "\ufda3\u062a\u0645\u064a", "\ufda4\u062a\u0645\u0649", "\ufda5\u062c\u0645\u064a",
  "\ufda6\u062c\u062d\u0649", "\ufda7\u062c\u0645\u0649", "\ufda8\u0633\u062e\u0649",
  "\ufda9\u0635\u062d\u064a", "\ufdaa\u0634\u062d\u064a", "\ufdab\u0636\u062d\u064a",
  "\ufdac\u0644\u062c\u064a", "\ufdad\u0644\u0645\u064a", "\ufdae\u064a\u062d\u064a",
  "\ufdaf\u064a\u062c\u064a", "\ufdb0\u064a\u0645\u064a", "\ufdb1\u0645\u0645\u064a",
  "\ufdb2\u0642\u0645\u064a", "\ufdb3\u0646\u062d\u064a", "\ufdb4\u0642\u0645\u062d",
  "\ufdb5\u0644\u062d\u0645", "\ufdb6\u0639\u0645\u064a", "\ufdb7\u0643\u0645\u064a",
  "\ufdb8\u0646\u062c\u062d", "\ufdb9\u0645\u062e\u064a", "\ufdba\u0644\u062c\u0645",
  "\ufdbb\u0643\u0645\u0645", "\ufdbc\u0644\u062c\u0645", "\ufdbd\u0646\u062c\u062d",
  "\ufdbe\u062c\u062d\u064a", "\ufdbf\u062d\u062c\u064a", "\ufdc0\u0645\u062c\u064a",
  "\ufdc1\u0641\u0645\u064a", "\ufdc2\u0628\u062d\u064a", "\ufdc3\u0643\u0645\u0645",
  "\ufdc4\u0639\u062c\u0645", "\ufdc5\u0635\u0645\u0645", "\ufdc6\u0633\u062e\u064a",
  "\ufdc7\u0646\u062c\u064a", "\ufdf0\u0635\u0644\u06d2", "\ufdf1\u0642\u0644\u06d2",
  "\ufdf2\u0627\u0644\u0644\u0647", "\ufdf3\u0627\u0643\u0628\u0631",
  "\ufdf4\u0645\u062d\u0645\u062f", "\ufdf5\u0635\u0644\u0639\u0645",
  "\ufdf6\u0631\u0633\u0648\u0644", "\ufdf7\u0639\u0644\u064a\u0647",
  "\ufdf8\u0648\u0633\u0644\u0645", "\ufdf9\u0635\u0644\u0649",
  "\ufdfa\u0635\u0644\u0649 \u0627\u0644\u0644\u0647 \u0639\u0644\u064a\u0647 \u0648\u0633\u0644\u0645",
  "\ufdfb\u062c\u0644 \u062c\u0644\u0627\u0644\u0647", "\ufdfc\u0631\u06cc\u0627\u0644", "︰..",
  "﹉ \u0305", "﹊ \u0305", "﹋ \u0305", "﹌ \u0305", "\ufe70 \u064b", "\ufe71\u0640\u064b",
  "\ufe72 \u064c", "\ufe74 \u064d", "\ufe76 \u064e", "\ufe77\u0640\u064e", "\ufe78 \u064f",
  "\ufe79\u0640\u064f", "\ufe7a \u0650", "\ufe7b\u0640\u0650", "\ufe7c \u0651",
  "\ufe7d\u0640\u0651", "\ufe7e \u0652", "\ufe7f\u0640\u0652", "\ufe80\u0621",
  "\ufe81\u0627\u0653", "\ufe82\u0627\u0653", "\ufe83\u0627\u0654", "\ufe84\u0627\u0654",
  "\ufe85\u0648\u0654", "\ufe86\u0648\u0654", "\ufe87\u0627\u0655", "\ufe88\u0627\u0655",
  "\ufe89\u064a\u0654", "\ufe8a\u064a\u0654", "\ufe8b\u064a\u0654", "\ufe8c\u064a\u0654",
  "\ufef5\u0644\u0627\u0653", "\ufef6\u0644\u0627\u0653", "\ufef7\u0644\u0627\u0654",
  "\ufef8\u0644\u0627\u0654", "\ufef9\u0644\u0627\u0655", "\ufefa\u0644\u0627\u0655",
  "\ufefb\u0644\u0627", "\ufefc\u0644\u0627", "ￚ\u1173", "ￛ\u1174", "ￜ\u1175", "￠¢", "￡£", "￢¬",
  "￣ \u0304", "￤¦", "￥¥", "￦₩", "𝅗𝅥𝅗𝅥", "𝅘𝅥𝅘𝅥", "𝅘𝅥𝅮𝅘𝅥𝅮", "𝅘𝅥𝅯𝅘𝅥𝅯", "𝅘𝅥𝅰𝅘𝅥𝅰", "𝅘𝅥𝅱𝅘𝅥𝅱", "𝅘𝅥𝅲𝅘𝅥𝅲", "𝆹𝅥𝆹𝅥", "𝆺𝅥𝆺𝅥",
  "𝆹𝅥𝅮𝆹𝅥𝅮", "𝆺𝅥𝅮𝆺𝅥𝅮", "𝆹𝅥𝅯𝆹𝅥𝅯", "𝆺𝅥𝅯𝆺𝅥𝅯", "𝒞C", "𝒟D", "𝒢G", "𝒥J", "𝒦K", "𝒻f", "𝓂m", "𝓃n", "𝕆O"]

/-- The classes of marks: first and last code point, and the class. All other characters are of
class nought. -/
def classes : List (Nat × Nat × Nat) := [
  (0x0300, 0x0314, 230), (0x0315, 0x0315, 232), (0x0316, 0x0319, 220), (0x031A, 0x031A, 232),
  (0x031B, 0x031B, 216), (0x031C, 0x0320, 220), (0x0321, 0x0322, 202), (0x0323, 0x0326, 220),
  (0x0327, 0x0328, 202), (0x0329, 0x0333, 220), (0x0334, 0x0338, 1), (0x0339, 0x033C, 220),
  (0x033D, 0x0344, 230), (0x0345, 0x0345, 240), (0x0346, 0x0346, 230), (0x0347, 0x0349, 220),
  (0x034A, 0x034C, 230), (0x034D, 0x034E, 220), (0x0350, 0x0352, 230), (0x0353, 0x0356, 220),
  (0x0357, 0x0357, 230), (0x0358, 0x0358, 232), (0x0359, 0x035A, 220), (0x035B, 0x035B, 230),
  (0x035C, 0x035C, 233), (0x035D, 0x035E, 234), (0x035F, 0x035F, 233), (0x0360, 0x0361, 234),
  (0x0362, 0x0362, 233), (0x0363, 0x036F, 230), (0x0483, 0x0487, 230), (0x0591, 0x0591, 220),
  (0x0592, 0x0595, 230), (0x0596, 0x0596, 220), (0x0597, 0x0599, 230), (0x059A, 0x059A, 222),
  (0x059B, 0x059B, 220), (0x059C, 0x05A1, 230), (0x05A2, 0x05A7, 220), (0x05A8, 0x05A9, 230),
  (0x05AA, 0x05AA, 220), (0x05AB, 0x05AC, 230), (0x05AD, 0x05AD, 222), (0x05AE, 0x05AE, 228),
  (0x05AF, 0x05AF, 230), (0x05B0, 0x05B0, 10), (0x05B1, 0x05B1, 11), (0x05B2, 0x05B2, 12),
  (0x05B3, 0x05B3, 13), (0x05B4, 0x05B4, 14), (0x05B5, 0x05B5, 15), (0x05B6, 0x05B6, 16),
  (0x05B7, 0x05B7, 17), (0x05B8, 0x05B8, 18), (0x05B9, 0x05BA, 19), (0x05BB, 0x05BB, 20),
  (0x05BC, 0x05BC, 21), (0x05BD, 0x05BD, 22), (0x05BF, 0x05BF, 23), (0x05C1, 0x05C1, 24),
  (0x05C2, 0x05C2, 25), (0x05C4, 0x05C4, 230), (0x05C5, 0x05C5, 220), (0x05C7, 0x05C7, 18),
  (0x0610, 0x0617, 230), (0x0618, 0x0618, 30), (0x0619, 0x0619, 31), (0x061A, 0x061A, 32),
  (0x064B, 0x064B, 27), (0x064C, 0x064C, 28), (0x064D, 0x064D, 29), (0x064E, 0x064E, 30),
  (0x064F, 0x064F, 31), (0x0650, 0x0650, 32), (0x0651, 0x0651, 33), (0x0652, 0x0652, 34),
  (0x0653, 0x0654, 230), (0x0655, 0x0656, 220), (0x0657, 0x065B, 230), (0x065C, 0x065C, 220),
  (0x065D, 0x065E, 230), (0x065F, 0x065F, 220), (0x0670, 0x0670, 35), (0x06D6, 0x06DC, 230),
  (0x06DF, 0x06E2, 230), (0x06E3, 0x06E3, 220), (0x06E4, 0x06E4, 230), (0x06E7, 0x06E8, 230),
  (0x06EA, 0x06EA, 220), (0x06EB, 0x06EC, 230), (0x06ED, 0x06ED, 220), (0x0711, 0x0711, 36),
  (0x0730, 0x0730, 230), (0x0731, 0x0731, 220), (0x0732, 0x0733, 230), (0x0734, 0x0734, 220),
  (0x0735, 0x0736, 230), (0x0737, 0x0739, 220), (0x073A, 0x073A, 230), (0x073B, 0x073C, 220),
  (0x073D, 0x073D, 230), (0x073E, 0x073E, 220), (0x073F, 0x0741, 230), (0x0742, 0x0742, 220),
  (0x0743, 0x0743, 230), (0x0744, 0x0744, 220), (0x0745, 0x0745, 230), (0x0746, 0x0746, 220),
  (0x0747, 0x0747, 230), (0x0748, 0x0748, 220), (0x0749, 0x074A, 230), (0x07EB, 0x07F1, 230),
  (0x07F2, 0x07F2, 220), (0x07F3, 0x07F3, 230), (0x07FD, 0x07FD, 220), (0x0816, 0x0819, 230),
  (0x081B, 0x0823, 230), (0x0825, 0x0827, 230), (0x0829, 0x082D, 230), (0x0859, 0x085B, 220),
  (0x0898, 0x0898, 230), (0x0899, 0x089B, 220), (0x089C, 0x089F, 230), (0x08CA, 0x08CE, 230),
  (0x08CF, 0x08D3, 220), (0x08D4, 0x08E1, 230), (0x08E3, 0x08E3, 220), (0x08E4, 0x08E5, 230),
  (0x08E6, 0x08E6, 220), (0x08E7, 0x08E8, 230), (0x08E9, 0x08E9, 220), (0x08EA, 0x08EC, 230),
  (0x08ED, 0x08EF, 220), (0x08F0, 0x08F0, 27), (0x08F1, 0x08F1, 28), (0x08F2, 0x08F2, 29),
  (0x08F3, 0x08F5, 230), (0x08F6, 0x08F6, 220), (0x08F7, 0x08F8, 230), (0x08F9, 0x08FA, 220),
  (0x08FB, 0x08FF, 230), (0x093C, 0x093C, 7), (0x094D, 0x094D, 9), (0x0951, 0x0951, 230),
  (0x0952, 0x0952, 220), (0x0953, 0x0954, 230), (0x09BC, 0x09BC, 7), (0x09CD, 0x09CD, 9),
  (0x09FE, 0x09FE, 230), (0x0A3C, 0x0A3C, 7), (0x0A4D, 0x0A4D, 9), (0x0ABC, 0x0ABC, 7),
  (0x0ACD, 0x0ACD, 9), (0x0B3C, 0x0B3C, 7), (0x0B4D, 0x0B4D, 9), (0x0BCD, 0x0BCD, 9),
  (0x0C3C, 0x0C3C, 7), (0x0C4D, 0x0C4D, 9), (0x0C55, 0x0C55, 84), (0x0C56, 0x0C56, 91),
  (0x0CBC, 0x0CBC, 7), (0x0CCD, 0x0CCD, 9), (0x0D3B, 0x0D3C, 9), (0x0D4D, 0x0D4D, 9),
  (0x0DCA, 0x0DCA, 9), (0x0E38, 0x0E39, 103), (0x0E3A, 0x0E3A, 9), (0x0E48, 0x0E4B, 107),
  (0x0EB8, 0x0EB9, 118), (0x0EBA, 0x0EBA, 9), (0x0EC8, 0x0ECB, 122), (0x0F18, 0x0F19, 220),
  (0x0F35, 0x0F35, 220), (0x0F37, 0x0F37, 220), (0x0F39, 0x0F39, 216), (0x0F71, 0x0F71, 129),
  (0x0F72, 0x0F72, 130), (0x0F74, 0x0F74, 132), (0x0F7A, 0x0F7D, 130), (0x0F80, 0x0F80, 130),
  (0x0F82, 0x0F83, 230), (0x0F84, 0x0F84, 9), (0x0F86, 0x0F87, 230), (0x0FC6, 0x0FC6, 220),
  (0x1037, 0x1037, 7), (0x1039, 0x103A, 9), (0x108D, 0x108D, 220), (0x135D, 0x135F, 230),
  (0x1714, 0x1715, 9), (0x1734, 0x1734, 9), (0x17D2, 0x17D2, 9), (0x17DD, 0x17DD, 230),
  (0x18A9, 0x18A9, 228), (0x1939, 0x1939, 222), (0x193A, 0x193A, 230), (0x193B, 0x193B, 220),
  (0x1A17, 0x1A17, 230), (0x1A18, 0x1A18, 220), (0x1A60, 0x1A60, 9), (0x1A75, 0x1A7C, 230),
  (0x1A7F, 0x1A7F, 220), (0x1AB0, 0x1AB4, 230), (0x1AB5, 0x1ABA, 220), (0x1ABB, 0x1ABC, 230),
  (0x1ABD, 0x1ABD, 220), (0x1ABF, 0x1AC0, 220), (0x1AC1, 0x1AC2, 230), (0x1AC3, 0x1AC4, 220),
  (0x1AC5, 0x1AC9, 230), (0x1ACA, 0x1ACA, 220), (0x1ACB, 0x1ACE, 230), (0x1B34, 0x1B34, 7),
  (0x1B44, 0x1B44, 9), (0x1B6B, 0x1B6B, 230), (0x1B6C, 0x1B6C, 220), (0x1B6D, 0x1B73, 230),
  (0x1BAA, 0x1BAB, 9), (0x1BE6, 0x1BE6, 7), (0x1BF2, 0x1BF3, 9), (0x1C37, 0x1C37, 7),
  (0x1CD0, 0x1CD2, 230), (0x1CD4, 0x1CD4, 1), (0x1CD5, 0x1CD9, 220), (0x1CDA, 0x1CDB, 230),
  (0x1CDC, 0x1CDF, 220), (0x1CE0, 0x1CE0, 230), (0x1CE2, 0x1CE8, 1), (0x1CED, 0x1CED, 220),
  (0x1CF4, 0x1CF4, 230), (0x1CF8, 0x1CF9, 230), (0x1DC0, 0x1DC1, 230), (0x1DC2, 0x1DC2, 220),
  (0x1DC3, 0x1DC9, 230), (0x1DCA, 0x1DCA, 220), (0x1DCB, 0x1DCC, 230), (0x1DCD, 0x1DCD, 234),
  (0x1DCE, 0x1DCE, 214), (0x1DCF, 0x1DCF, 220), (0x1DD0, 0x1DD0, 202), (0x1DD1, 0x1DF5, 230),
  (0x1DF6, 0x1DF6, 232), (0x1DF7, 0x1DF8, 228), (0x1DF9, 0x1DF9, 220), (0x1DFA, 0x1DFA, 218),
  (0x1DFB, 0x1DFB, 230), (0x1DFC, 0x1DFC, 233), (0x1DFD, 0x1DFD, 220), (0x1DFE, 0x1DFE, 230),
  (0x1DFF, 0x1DFF, 220), (0x20D0, 0x20D1, 230), (0x20D2, 0x20D3, 1), (0x20D4, 0x20D7, 230),
  (0x20D8, 0x20DA, 1), (0x20DB, 0x20DC, 230), (0x20E1, 0x20E1, 230), (0x20E5, 0x20E6, 1),
  (0x20E7, 0x20E7, 230), (0x20E8, 0x20E8, 220), (0x20E9, 0x20E9, 230), (0x20EA, 0x20EB, 1),
  (0x20EC, 0x20EF, 220), (0x20F0, 0x20F0, 230), (0x2CEF, 0x2CF1, 230), (0x2D7F, 0x2D7F, 9),
  (0x2DE0, 0x2DFF, 230), (0x302A, 0x302A, 218), (0x302B, 0x302B, 228), (0x302C, 0x302C, 232),
  (0x302D, 0x302D, 222), (0x302E, 0x302F, 224), (0x3099, 0x309A, 8), (0xA66F, 0xA66F, 230),
  (0xA674, 0xA67D, 230), (0xA69E, 0xA69F, 230), (0xA6F0, 0xA6F1, 230), (0xA806, 0xA806, 9),
  (0xA82C, 0xA82C, 9), (0xA8C4, 0xA8C4, 9), (0xA8E0, 0xA8F1, 230), (0xA92B, 0xA92D, 220),
  (0xA953, 0xA953, 9), (0xA9B3, 0xA9B3, 7), (0xA9C0, 0xA9C0, 9), (0xAAB0, 0xAAB0, 230),
  (0xAAB2, 0xAAB3, 230), (0xAAB4, 0xAAB4, 220), (0xAAB7, 0xAAB8, 230), (0xAABE, 0xAABF, 230),
  (0xAAC1, 0xAAC1, 230), (0xAAF6, 0xAAF6, 9), (0xABED, 0xABED, 9), (0xFB1E, 0xFB1E, 26),
  (0xFE20, 0xFE26, 230), (0xFE27, 0xFE2D, 220), (0xFE2E, 0xFE2F, 230), (0x101FD, 0x101FD, 220),
  (0x102E0, 0x102E0, 220), (0x10376, 0x1037A, 230), (0x10A0D, 0x10A0D, 220),
  (0x10A0F, 0x10A0F, 230), (0x10A38, 0x10A38, 230), (0x10A39, 0x10A39, 1), (0x10A3A, 0x10A3A, 220),
  (0x10A3F, 0x10A3F, 9), (0x10AE5, 0x10AE5, 230), (0x10AE6, 0x10AE6, 220), (0x10D24, 0x10D27, 230),
  (0x10EAB, 0x10EAC, 230), (0x10F46, 0x10F47, 220), (0x10F48, 0x10F4A, 230),
  (0x10F4B, 0x10F4B, 220), (0x10F4C, 0x10F4C, 230), (0x10F4D, 0x10F50, 220),
  (0x10F82, 0x10F82, 230), (0x10F83, 0x10F83, 220), (0x10F84, 0x10F84, 230),
  (0x10F85, 0x10F85, 220), (0x11046, 0x11046, 9), (0x11070, 0x11070, 9), (0x1107F, 0x1107F, 9),
  (0x110B9, 0x110B9, 9), (0x110BA, 0x110BA, 7), (0x11100, 0x11102, 230), (0x11133, 0x11134, 9),
  (0x11173, 0x11173, 7), (0x111C0, 0x111C0, 9), (0x111CA, 0x111CA, 7), (0x11235, 0x11235, 9),
  (0x11236, 0x11236, 7), (0x112E9, 0x112E9, 7), (0x112EA, 0x112EA, 9), (0x1133B, 0x1133C, 7),
  (0x1134D, 0x1134D, 9), (0x11366, 0x1136C, 230), (0x11370, 0x11374, 230), (0x11442, 0x11442, 9),
  (0x11446, 0x11446, 7), (0x1145E, 0x1145E, 230), (0x114C2, 0x114C2, 9), (0x114C3, 0x114C3, 7),
  (0x115BF, 0x115BF, 9), (0x115C0, 0x115C0, 7), (0x1163F, 0x1163F, 9), (0x116B6, 0x116B6, 9),
  (0x116B7, 0x116B7, 7), (0x1172B, 0x1172B, 9), (0x11839, 0x11839, 9), (0x1183A, 0x1183A, 7),
  (0x1193D, 0x1193E, 9), (0x11943, 0x11943, 7), (0x119E0, 0x119E0, 9), (0x11A34, 0x11A34, 9),
  (0x11A47, 0x11A47, 9), (0x11A99, 0x11A99, 9), (0x11C3F, 0x11C3F, 9), (0x11D42, 0x11D42, 7),
  (0x11D44, 0x11D45, 9), (0x11D97, 0x11D97, 9), (0x16AF0, 0x16AF4, 1), (0x16B30, 0x16B36, 230),
  (0x16FF0, 0x16FF1, 6), (0x1BC9E, 0x1BC9E, 1), (0x1D165, 0x1D166, 216), (0x1D167, 0x1D169, 1),
  (0x1D16D, 0x1D16D, 226), (0x1D16E, 0x1D172, 216), (0x1D17B, 0x1D182, 220),
  (0x1D185, 0x1D189, 230), (0x1D18A, 0x1D18B, 220), (0x1D1AA, 0x1D1AD, 230),
  (0x1D242, 0x1D244, 230), (0x1E000, 0x1E006, 230), (0x1E008, 0x1E018, 230),
  (0x1E01B, 0x1E021, 230), (0x1E023, 0x1E024, 230), (0x1E026, 0x1E02A, 230),
  (0x1E130, 0x1E136, 230), (0x1E2AE, 0x1E2AE, 230), (0x1E2EC, 0x1E2EF, 230),
  (0x1E8D0, 0x1E8D6, 220), (0x1E944, 0x1E949, 230), (0x1E94A, 0x1E94A, 7)]

def pairs : List String := [
  "<\u0338≮", "=\u0338≠", ">\u0338≯", "A\u0300À", "A\u0301Á", "A\u0302Â", "A\u0303Ã", "A\u0304Ā",
  "A\u0306Ă", "A\u0307Ȧ", "A\u0308Ä", "A\u0309Ả", "A\u030aÅ", "A\u030cǍ", "A\u030fȀ", "A\u0311Ȃ",
  "A\u0323Ạ", "A\u0325Ḁ", "A\u0328Ą", "B\u0307Ḃ", "B\u0323Ḅ", "B\u0331Ḇ", "C\u0301Ć", "C\u0302Ĉ",
  "C\u0307Ċ", "C\u030cČ", "C\u0327Ç", "D\u0307Ḋ", "D\u030cĎ", "D\u0323Ḍ", "D\u0327Ḑ", "D\u032dḒ",
  "D\u0331Ḏ", "E\u0300È", "E\u0301É", "E\u0302Ê", "E\u0303Ẽ", "E\u0304Ē", "E\u0306Ĕ", "E\u0307Ė",
  "E\u0308Ë", "E\u0309Ẻ", "E\u030cĚ", "E\u030fȄ", "E\u0311Ȇ", "E\u0323Ẹ", "E\u0327Ȩ", "E\u0328Ę",
  "E\u032dḘ", "E\u0330Ḛ", "F\u0307Ḟ", "G\u0301Ǵ", "G\u0302Ĝ", "G\u0304Ḡ", "G\u0306Ğ", "G\u0307Ġ",
  "G\u030cǦ", "G\u0327Ģ", "H\u0302Ĥ", "H\u0307Ḣ", "H\u0308Ḧ", "H\u030cȞ", "H\u0323Ḥ", "H\u0327Ḩ",
  "H\u032eḪ", "I\u0300Ì", "I\u0301Í", "I\u0302Î", "I\u0303Ĩ", "I\u0304Ī", "I\u0306Ĭ", "I\u0307İ",
  "I\u0308Ï", "I\u0309Ỉ", "I\u030cǏ", "I\u030fȈ", "I\u0311Ȋ", "I\u0323Ị", "I\u0328Į", "I\u0330Ḭ",
  "J\u0302Ĵ", "K\u0301Ḱ", "K\u030cǨ", "K\u0323Ḳ", "K\u0327Ķ", "K\u0331Ḵ", "L\u0301Ĺ", "L\u030cĽ",
  "L\u0323Ḷ", "L\u0327Ļ", "L\u032dḼ", "L\u0331Ḻ", "M\u0301Ḿ", "M\u0307Ṁ", "M\u0323Ṃ", "N\u0300Ǹ",
  "N\u0301Ń", "N\u0303Ñ", "N\u0307Ṅ", "N\u030cŇ", "N\u0323Ṇ", "N\u0327Ņ", "N\u032dṊ", "N\u0331Ṉ",
  "O\u0300Ò", "O\u0301Ó", "O\u0302Ô", "O\u0303Õ", "O\u0304Ō", "O\u0306Ŏ", "O\u0307Ȯ", "O\u0308Ö",
  "O\u0309Ỏ", "O\u030bŐ", "O\u030cǑ", "O\u030fȌ", "O\u0311Ȏ", "O\u031bƠ", "O\u0323Ọ", "O\u0328Ǫ",
  "P\u0301Ṕ", "P\u0307Ṗ", "R\u0301Ŕ", "R\u0307Ṙ", "R\u030cŘ", "R\u030fȐ", "R\u0311Ȓ", "R\u0323Ṛ",
  "R\u0327Ŗ", "R\u0331Ṟ", "S\u0301Ś", "S\u0302Ŝ", "S\u0307Ṡ", "S\u030cŠ", "S\u0323Ṣ", "S\u0326Ș",
  "S\u0327Ş", "T\u0307Ṫ", "T\u030cŤ", "T\u0323Ṭ", "T\u0326Ț", "T\u0327Ţ", "T\u032dṰ", "T\u0331Ṯ",
  "U\u0300Ù", "U\u0301Ú", "U\u0302Û", "U\u0303Ũ", "U\u0304Ū", "U\u0306Ŭ", "U\u0308Ü", "U\u0309Ủ",
  "U\u030aŮ", "U\u030bŰ", "U\u030cǓ", "U\u030fȔ", "U\u0311Ȗ", "U\u031bƯ", "U\u0323Ụ", "U\u0324Ṳ",
  "U\u0328Ų", "U\u032dṶ", "U\u0330Ṵ", "V\u0303Ṽ", "V\u0323Ṿ", "W\u0300Ẁ", "W\u0301Ẃ", "W\u0302Ŵ",
  "W\u0307Ẇ", "W\u0308Ẅ", "W\u0323Ẉ", "X\u0307Ẋ", "X\u0308Ẍ", "Y\u0300Ỳ", "Y\u0301Ý", "Y\u0302Ŷ",
  "Y\u0303Ỹ", "Y\u0304Ȳ", "Y\u0307Ẏ", "Y\u0308Ÿ", "Y\u0309Ỷ", "Y\u0323Ỵ", "Z\u0301Ź", "Z\u0302Ẑ",
  "Z\u0307Ż", "Z\u030cŽ", "Z\u0323Ẓ", "Z\u0331Ẕ", "a\u0300à", "a\u0301á", "a\u0302â", "a\u0303ã",
  "a\u0304ā", "a\u0306ă", "a\u0307ȧ", "a\u0308ä", "a\u0309ả", "a\u030aå", "a\u030cǎ", "a\u030fȁ",
  "a\u0311ȃ", "a\u0323ạ", "a\u0325ḁ", "a\u0328ą", "b\u0307ḃ", "b\u0323ḅ", "b\u0331ḇ", "c\u0301ć",
  "c\u0302ĉ", "c\u0307ċ", "c\u030cč", "c\u0327ç", "d\u0307ḋ", "d\u030cď", "d\u0323ḍ", "d\u0327ḑ",
  "d\u032dḓ", "d\u0331ḏ", "e\u0300è", "e\u0301é", "e\u0302ê", "e\u0303ẽ", "e\u0304ē", "e\u0306ĕ",
  "e\u0307ė", "e\u0308ë", "e\u0309ẻ", "e\u030cě", "e\u030fȅ", "e\u0311ȇ", "e\u0323ẹ", "e\u0327ȩ",
  "e\u0328ę", "e\u032dḙ", "e\u0330ḛ", "f\u0307ḟ", "g\u0301ǵ", "g\u0302ĝ", "g\u0304ḡ", "g\u0306ğ",
  "g\u0307ġ", "g\u030cǧ", "g\u0327ģ", "h\u0302ĥ", "h\u0307ḣ", "h\u0308ḧ", "h\u030cȟ", "h\u0323ḥ",
  "h\u0327ḩ", "h\u032eḫ", "h\u0331ẖ", "i\u0300ì", "i\u0301í", "i\u0302î", "i\u0303ĩ", "i\u0304ī",
  "i\u0306ĭ", "i\u0308ï", "i\u0309ỉ", "i\u030cǐ", "i\u030fȉ", "i\u0311ȋ", "i\u0323ị", "i\u0328į",
  "i\u0330ḭ", "j\u0302ĵ", "j\u030cǰ", "k\u0301ḱ", "k\u030cǩ", "k\u0323ḳ", "k\u0327ķ", "k\u0331ḵ",
  "l\u0301ĺ", "l\u030cľ", "l\u0323ḷ", "l\u0327ļ", "l\u032dḽ", "l\u0331ḻ", "m\u0301ḿ", "m\u0307ṁ",
  "m\u0323ṃ", "n\u0300ǹ", "n\u0301ń", "n\u0303ñ", "n\u0307ṅ", "n\u030cň", "n\u0323ṇ", "n\u0327ņ",
  "n\u032dṋ", "n\u0331ṉ", "o\u0300ò", "o\u0301ó", "o\u0302ô", "o\u0303õ", "o\u0304ō", "o\u0306ŏ",
  "o\u0307ȯ", "o\u0308ö", "o\u0309ỏ", "o\u030bő", "o\u030cǒ", "o\u030fȍ", "o\u0311ȏ", "o\u031bơ",
  "o\u0323ọ", "o\u0328ǫ", "p\u0301ṕ", "p\u0307ṗ", "r\u0301ŕ", "r\u0307ṙ", "r\u030cř", "r\u030fȑ",
  "r\u0311ȓ", "r\u0323ṛ", "r\u0327ŗ", "r\u0331ṟ", "s\u0301ś", "s\u0302ŝ", "s\u0307ṡ", "s\u030cš",
  "s\u0323ṣ", "s\u0326ș", "s\u0327ş", "t\u0307ṫ", "t\u0308ẗ", "t\u030cť", "t\u0323ṭ", "t\u0326ț",
  "t\u0327ţ", "t\u032dṱ", "t\u0331ṯ", "u\u0300ù", "u\u0301ú", "u\u0302û", "u\u0303ũ", "u\u0304ū",
  "u\u0306ŭ", "u\u0308ü", "u\u0309ủ", "u\u030aů", "u\u030bű", "u\u030cǔ", "u\u030fȕ", "u\u0311ȗ",
  "u\u031bư", "u\u0323ụ", "u\u0324ṳ", "u\u0328ų", "u\u032dṷ", "u\u0330ṵ", "v\u0303ṽ", "v\u0323ṿ",
  "w\u0300ẁ", "w\u0301ẃ", "w\u0302ŵ", "w\u0307ẇ", "w\u0308ẅ", "w\u030aẘ", "w\u0323ẉ", "x\u0307ẋ",
  "x\u0308ẍ", "y\u0300ỳ", "y\u0301ý", "y\u0302ŷ", "y\u0303ỹ", "y\u0304ȳ", "y\u0307ẏ", "y\u0308ÿ",
  "y\u0309ỷ", "y\u030aẙ", "y\u0323ỵ", "z\u0301ź", "z\u0302ẑ", "z\u0307ż", "z\u030cž", "z\u0323ẓ",
  "z\u0331ẕ", "¨\u0300῭", "¨\u0301΅", "¨\u0342῁", "Â\u0300Ầ", "Â\u0301Ấ", "Â\u0303Ẫ", "Â\u0309Ẩ",
  "Ä\u0304Ǟ", "Å\u0301Ǻ", "Æ\u0301Ǽ", "Æ\u0304Ǣ", "Ç\u0301Ḉ", "Ê\u0300Ề", "Ê\u0301Ế", "Ê\u0303Ễ",
  "Ê\u0309Ể", "Ï\u0301Ḯ", "Ô\u0300Ồ", "Ô\u0301Ố", "Ô\u0303Ỗ", "Ô\u0309Ổ", "Õ\u0301Ṍ", "Õ\u0304Ȭ",
  "Õ\u0308Ṏ", "Ö\u0304Ȫ", "Ø\u0301Ǿ", "Ü\u0300Ǜ", "Ü\u0301Ǘ", "Ü\u0304Ǖ", "Ü\u030cǙ", "â\u0300ầ",
  "â\u0301ấ", "â\u0303ẫ", "â\u0309ẩ", "ä\u0304ǟ", "å\u0301ǻ", "æ\u0301ǽ", "æ\u0304ǣ", "ç\u0301ḉ",
  "ê\u0300ề", "ê\u0301ế", "ê\u0303ễ", "ê\u0309ể", "ï\u0301ḯ", "ô\u0300ồ", "ô\u0301ố", "ô\u0303ỗ",
  "ô\u0309ổ", "õ\u0301ṍ", "õ\u0304ȭ", "õ\u0308ṏ", "ö\u0304ȫ", "ø\u0301ǿ", "ü\u0300ǜ", "ü\u0301ǘ",
  "ü\u0304ǖ", "ü\u030cǚ", "Ă\u0300Ằ", "Ă\u0301Ắ", "Ă\u0303Ẵ", "Ă\u0309Ẳ", "ă\u0300ằ", "ă\u0301ắ",
  "ă\u0303ẵ", "ă\u0309ẳ", "Ē\u0300Ḕ", "Ē\u0301Ḗ", "ē\u0300ḕ", "ē\u0301ḗ", "Ō\u0300Ṑ", "Ō\u0301Ṓ",
  "ō\u0300ṑ", "ō\u0301ṓ", "Ś\u0307Ṥ", "ś\u0307ṥ", "Š\u0307Ṧ", "š\u0307ṧ", "Ũ\u0301Ṹ", "ũ\u0301ṹ",
  "Ū\u0308Ṻ", "ū\u0308ṻ", "ſ\u0307ẛ", "Ơ\u0300Ờ", "Ơ\u0301Ớ", "Ơ\u0303Ỡ", "Ơ\u0309Ở", "Ơ\u0323Ợ",
  "ơ\u0300ờ", "ơ\u0301ớ", "ơ\u0303ỡ", "ơ\u0309ở", "ơ\u0323ợ", "Ư\u0300Ừ", "Ư\u0301Ứ", "Ư\u0303Ữ",
  "Ư\u0309Ử", "Ư\u0323Ự", "ư\u0300ừ", "ư\u0301ứ", "ư\u0303ữ", "ư\u0309ử", "ư\u0323ự", "Ʒ\u030cǮ",
  "Ǫ\u0304Ǭ", "ǫ\u0304ǭ", "Ȧ\u0304Ǡ", "ȧ\u0304ǡ", "Ȩ\u0306Ḝ", "ȩ\u0306ḝ", "Ȯ\u0304Ȱ", "ȯ\u0304ȱ",
  "ʒ\u030cǯ", "Α\u0300Ὰ", "Α\u0301Ά", "Α\u0304Ᾱ", "Α\u0306Ᾰ", "Α\u0313Ἀ", "Α\u0314Ἁ", "Α\u0345ᾼ",
  "Ε\u0300Ὲ", "Ε\u0301Έ", "Ε\u0313Ἐ", "Ε\u0314Ἑ", "Η\u0300Ὴ", "Η\u0301Ή", "Η\u0313Ἠ", "Η\u0314Ἡ",
  "Η\u0345ῌ", "Ι\u0300Ὶ", "Ι\u0301Ί", "Ι\u0304Ῑ", "Ι\u0306Ῐ", "Ι\u0308Ϊ", "Ι\u0313Ἰ", "Ι\u0314Ἱ",
  "Ο\u0300Ὸ", "Ο\u0301Ό", "Ο\u0313Ὀ", "Ο\u0314Ὁ", "Ρ\u0314Ῥ", "Υ\u0300Ὺ", "Υ\u0301Ύ", "Υ\u0304Ῡ",
  "Υ\u0306Ῠ", "Υ\u0308Ϋ", "Υ\u0314Ὑ", "Ω\u0300Ὼ", "Ω\u0301Ώ", "Ω\u0313Ὠ", "Ω\u0314Ὡ", "Ω\u0345ῼ",
  "ά\u0345ᾴ", "ή\u0345ῄ", "α\u0300ὰ", "α\u0301ά", "α\u0304ᾱ", "α\u0306ᾰ", "α\u0313ἀ", "α\u0314ἁ",
  "α\u0342ᾶ", "α\u0345ᾳ", "ε\u0300ὲ", "ε\u0301έ", "ε\u0313ἐ", "ε\u0314ἑ", "η\u0300ὴ", "η\u0301ή",
  "η\u0313ἠ", "η\u0314ἡ", "η\u0342ῆ", "η\u0345ῃ", "ι\u0300ὶ", "ι\u0301ί", "ι\u0304ῑ", "ι\u0306ῐ",
  "ι\u0308ϊ", "ι\u0313ἰ", "ι\u0314ἱ", "ι\u0342ῖ", "ο\u0300ὸ", "ο\u0301ό", "ο\u0313ὀ", "ο\u0314ὁ",
  "ρ\u0313ῤ", "ρ\u0314ῥ", "υ\u0300ὺ", "υ\u0301ύ", "υ\u0304ῡ", "υ\u0306ῠ", "υ\u0308ϋ", "υ\u0313ὐ",
  "υ\u0314ὑ", "υ\u0342ῦ", "ω\u0300ὼ", "ω\u0301ώ", "ω\u0313ὠ", "ω\u0314ὡ", "ω\u0342ῶ", "ω\u0345ῳ",
  "ϊ\u0300ῒ", "ϊ\u0301ΐ", "ϊ\u0342ῗ", "ϋ\u0300ῢ", "ϋ\u0301ΰ", "ϋ\u0342ῧ", "ώ\u0345ῴ", "ϒ\u0301ϓ",
  "ϒ\u0308ϔ", "І\u0308Ї", "А\u0306Ӑ", "А\u0308Ӓ", "Г\u0301Ѓ", "Е\u0300Ѐ", "Е\u0306Ӗ", "Е\u0308Ё",
  "Ж\u0306Ӂ", "Ж\u0308Ӝ", "З\u0308Ӟ", "И\u0300Ѝ", "И\u0304Ӣ", "И\u0306Й", "И\u0308Ӥ", "К\u0301Ќ",
  "О\u0308Ӧ", "У\u0304Ӯ", "У\u0306Ў", "У\u0308Ӱ", "У\u030bӲ", "Ч\u0308Ӵ", "Ы\u0308Ӹ", "Э\u0308Ӭ",
  "а\u0306ӑ", "а\u0308ӓ", "г\u0301ѓ", "е\u0300ѐ", "е\u0306ӗ", "е\u0308ё", "ж\u0306ӂ", "ж\u0308ӝ",
  "з\u0308ӟ", "и\u0300ѝ", "и\u0304ӣ", "и\u0306й", "и\u0308ӥ", "к\u0301ќ", "о\u0308ӧ", "у\u0304ӯ",
  "у\u0306ў", "у\u0308ӱ", "у\u030bӳ", "ч\u0308ӵ", "ы\u0308ӹ", "э\u0308ӭ", "і\u0308ї", "Ѵ\u030fѶ",
  "ѵ\u030fѷ", "Ә\u0308Ӛ", "ә\u0308ӛ", "Ө\u0308Ӫ", "ө\u0308ӫ", "\u0627\u0653\u0622",
  "\u0627\u0654\u0623", "\u0627\u0655\u0625", "\u0648\u0654\u0624", "\u064a\u0654\u0626",
  "\u06c1\u0654\u06c2", "\u06d2\u0654\u06d3", "\u06d5\u0654\u06c0", "न\u093cऩ", "र\u093cऱ",
  "ळ\u093cऴ", "\u09c7\u09be\u09cb", "\u09c7\u09d7\u09cc", "\u0b47\u0b3e\u0b4b",
  "\u0b47\u0b56\u0b48", "\u0b47\u0b57\u0b4c", "ஒ\u0bd7ஔ", "\u0bc6\u0bbe\u0bca",
  "\u0bc6\u0bd7\u0bcc", "\u0bc7\u0bbe\u0bcb", "\u0c46\u0c56\u0c48", "\u0cbf\u0cd5\u0cc0",
  "\u0cc6\u0cc2\u0cca", "\u0cc6\u0cd5\u0cc7", "\u0cc6\u0cd6\u0cc8", "\u0cca\u0cd5\u0ccb",
  "\u0d46\u0d3e\u0d4a", "\u0d46\u0d57\u0d4c", "\u0d47\u0d3e\u0d4b", "\u0dd9\u0dca\u0dda",
  "\u0dd9\u0dcf\u0ddc", "\u0dd9\u0ddf\u0dde", "\u0ddc\u0dca\u0ddd", "ဥ\u102eဦ", "ᬅ\u1b35ᬆ",
  "ᬇ\u1b35ᬈ", "ᬉ\u1b35ᬊ", "ᬋ\u1b35ᬌ", "ᬍ\u1b35ᬎ", "ᬑ\u1b35ᬒ", "\u1b3a\u1b35\u1b3b",
  "\u1b3c\u1b35\u1b3d", "\u1b3e\u1b35\u1b40", "\u1b3f\u1b35\u1b41", "\u1b42\u1b35\u1b43",
  "Ḷ\u0304Ḹ", "ḷ\u0304ḹ", "Ṛ\u0304Ṝ", "ṛ\u0304ṝ", "Ṣ\u0307Ṩ", "ṣ\u0307ṩ", "Ạ\u0302Ậ", "Ạ\u0306Ặ",
  "ạ\u0302ậ", "ạ\u0306ặ", "Ẹ\u0302Ệ", "ẹ\u0302ệ", "Ọ\u0302Ộ", "ọ\u0302ộ", "ἀ\u0300ἂ", "ἀ\u0301ἄ",
  "ἀ\u0342ἆ", "ἀ\u0345ᾀ", "ἁ\u0300ἃ", "ἁ\u0301ἅ", "ἁ\u0342ἇ", "ἁ\u0345ᾁ", "ἂ\u0345ᾂ", "ἃ\u0345ᾃ",
  "ἄ\u0345ᾄ", "ἅ\u0345ᾅ", "ἆ\u0345ᾆ", "ἇ\u0345ᾇ", "Ἀ\u0300Ἂ", "Ἀ\u0301Ἄ", "Ἀ\u0342Ἆ", "Ἀ\u0345ᾈ",
  "Ἁ\u0300Ἃ", "Ἁ\u0301Ἅ", "Ἁ\u0342Ἇ", "Ἁ\u0345ᾉ", "Ἂ\u0345ᾊ", "Ἃ\u0345ᾋ", "Ἄ\u0345ᾌ", "Ἅ\u0345ᾍ",
  "Ἆ\u0345ᾎ", "Ἇ\u0345ᾏ", "ἐ\u0300ἒ", "ἐ\u0301ἔ", "ἑ\u0300ἓ", "ἑ\u0301ἕ", "Ἐ\u0300Ἒ", "Ἐ\u0301Ἔ",
  "Ἑ\u0300Ἓ", "Ἑ\u0301Ἕ", "ἠ\u0300ἢ", "ἠ\u0301ἤ", "ἠ\u0342ἦ", "ἠ\u0345ᾐ", "ἡ\u0300ἣ", "ἡ\u0301ἥ",
  "ἡ\u0342ἧ", "ἡ\u0345ᾑ", "ἢ\u0345ᾒ", "ἣ\u0345ᾓ", "ἤ\u0345ᾔ", "ἥ\u0345ᾕ", "ἦ\u0345ᾖ", "ἧ\u0345ᾗ",
  "Ἠ\u0300Ἢ", "Ἠ\u0301Ἤ", "Ἠ\u0342Ἦ", "Ἠ\u0345ᾘ", "Ἡ\u0300Ἣ", "Ἡ\u0301Ἥ", "Ἡ\u0342Ἧ", "Ἡ\u0345ᾙ",
  "Ἢ\u0345ᾚ", "Ἣ\u0345ᾛ", "Ἤ\u0345ᾜ", "Ἥ\u0345ᾝ", "Ἦ\u0345ᾞ", "Ἧ\u0345ᾟ", "ἰ\u0300ἲ", "ἰ\u0301ἴ",
  "ἰ\u0342ἶ", "ἱ\u0300ἳ", "ἱ\u0301ἵ", "ἱ\u0342ἷ", "Ἰ\u0300Ἲ", "Ἰ\u0301Ἴ", "Ἰ\u0342Ἶ", "Ἱ\u0300Ἳ",
  "Ἱ\u0301Ἵ", "Ἱ\u0342Ἷ", "ὀ\u0300ὂ", "ὀ\u0301ὄ", "ὁ\u0300ὃ", "ὁ\u0301ὅ", "Ὀ\u0300Ὂ", "Ὀ\u0301Ὄ",
  "Ὁ\u0300Ὃ", "Ὁ\u0301Ὅ", "ὐ\u0300ὒ", "ὐ\u0301ὔ", "ὐ\u0342ὖ", "ὑ\u0300ὓ", "ὑ\u0301ὕ", "ὑ\u0342ὗ",
  "Ὑ\u0300Ὓ", "Ὑ\u0301Ὕ", "Ὑ\u0342Ὗ", "ὠ\u0300ὢ", "ὠ\u0301ὤ", "ὠ\u0342ὦ", "ὠ\u0345ᾠ", "ὡ\u0300ὣ",
  "ὡ\u0301ὥ", "ὡ\u0342ὧ", "ὡ\u0345ᾡ", "ὢ\u0345ᾢ", "ὣ\u0345ᾣ", "ὤ\u0345ᾤ", "ὥ\u0345ᾥ", "ὦ\u0345ᾦ",
  "ὧ\u0345ᾧ", "Ὠ\u0300Ὢ", "Ὠ\u0301Ὤ", "Ὠ\u0342Ὦ", "Ὠ\u0345ᾨ", "Ὡ\u0300Ὣ", "Ὡ\u0301Ὥ", "Ὡ\u0342Ὧ",
  "Ὡ\u0345ᾩ", "Ὢ\u0345ᾪ", "Ὣ\u0345ᾫ", "Ὤ\u0345ᾬ", "Ὥ\u0345ᾭ", "Ὦ\u0345ᾮ", "Ὧ\u0345ᾯ", "ὰ\u0345ᾲ",
  "ὴ\u0345ῂ", "ὼ\u0345ῲ", "ᾶ\u0345ᾷ", "᾿\u0300῍", "᾿\u0301῎", "᾿\u0342῏", "ῆ\u0345ῇ", "ῶ\u0345ῷ",
  "῾\u0300῝", "῾\u0301῞", "῾\u0342῟", "←\u0338↚", "→\u0338↛", "↔\u0338↮", "⇐\u0338⇍", "⇒\u0338⇏",
  "⇔\u0338⇎", "∃\u0338∄", "∈\u0338∉", "∋\u0338∌", "∣\u0338∤", "∥\u0338∦", "∼\u0338≁", "≃\u0338≄",
  "≅\u0338≇", "≈\u0338≉", "≍\u0338≭", "≡\u0338≢", "≤\u0338≰", "≥\u0338≱", "≲\u0338≴", "≳\u0338≵",
  "≶\u0338≸", "≷\u0338≹", "≺\u0338⊀", "≻\u0338⊁", "≼\u0338⋠", "≽\u0338⋡", "⊂\u0338⊄", "⊃\u0338⊅",
  "⊆\u0338⊈", "⊇\u0338⊉", "⊑\u0338⋢", "⊒\u0338⋣", "⊢\u0338⊬", "⊨\u0338⊭", "⊩\u0338⊮", "⊫\u0338⊯",
  "⊲\u0338⋪", "⊳\u0338⋫", "⊴\u0338⋬", "⊵\u0338⋭", "う\u3099ゔ", "か\u3099が", "き\u3099ぎ", "く\u3099ぐ",
  "け\u3099げ", "こ\u3099ご", "さ\u3099ざ", "し\u3099じ", "す\u3099ず", "せ\u3099ぜ", "そ\u3099ぞ", "た\u3099だ",
  "ち\u3099ぢ", "つ\u3099づ", "て\u3099で", "と\u3099ど", "は\u3099ば", "は\u309aぱ", "ひ\u3099び", "ひ\u309aぴ",
  "ふ\u3099ぶ", "ふ\u309aぷ", "へ\u3099べ", "へ\u309aぺ", "ほ\u3099ぼ", "ほ\u309aぽ", "ゝ\u3099ゞ", "ウ\u3099ヴ",
  "カ\u3099ガ", "キ\u3099ギ", "ク\u3099グ", "ケ\u3099ゲ", "コ\u3099ゴ", "サ\u3099ザ", "シ\u3099ジ", "ス\u3099ズ",
  "セ\u3099ゼ", "ソ\u3099ゾ", "タ\u3099ダ", "チ\u3099ヂ", "ツ\u3099ヅ", "テ\u3099デ", "ト\u3099ド", "ハ\u3099バ",
  "ハ\u309aパ", "ヒ\u3099ビ", "ヒ\u309aピ", "フ\u3099ブ", "フ\u309aプ", "ヘ\u3099ベ", "ヘ\u309aペ", "ホ\u3099ボ",
  "ホ\u309aポ", "ワ\u3099ヷ", "ヰ\u3099ヸ", "ヱ\u3099ヹ", "ヲ\u3099ヺ", "ヽ\u3099ヾ", "𑂚𑂚", "𑂜𑂜", "𑂫𑂫",
  "𑄮𑄮", "𑄯𑄯", "𑍋𑍋", "𑍌𑍌", "𑒼𑒼", "𑒻𑒻", "𑒾𑒾", "𑖺𑖺", "𑖻𑖻", "𑤸𑤸"]

end Newswire.Text.Normal
