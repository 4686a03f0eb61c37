import Newswire.Charset.Plane

/-!
The characters in which the set of code page 932 differs from Shift JIS.
-/

namespace Newswire.Charset

def cp932Low : Plane := ⟨0x81, 0x40, #[
  "................................～∥..........................－",
  "",
  "",
  "",
  "",
  "",
  "①②③④⑤⑥⑦⑧⑨⑩⑪⑫⑬⑭⑮⑯⑰⑱⑲⑳ⅠⅡⅢⅣⅤⅥⅦⅧⅨⅩ.㍉㌔㌢㍍㌘㌧㌃㌶㍑㍗㌍㌦㌣㌫㍊㌻㎜㎝㎞㎎㎏㏄㎡........㍻",
  "",
  "",
  "",
  "",
  "",
  "",
  "",
  "",
  "",
  "",
  "",
  "",
  "",
  "",
  "",
  "",
  "",
  "",
  "",
  "",
  "",
  "",
  "",
  "",
  "",
  "",
  "",
  "",
  "",
  "",
  "",
  "",
  "",
  "",
  "",
  "",
  "",
  "",
  "",
  "",
  "",
  "",
  "",
  "",
  "",
  "",
  "",
  "",
  "",
  "",
  "",
  "",
  "",
  "",
  "",
  "",
  "",
  "",
  "",
  "",
  "",
  "",
  "",
  "",
  "",
  "",
  "",
  "",
  "",
  "",
  "",
  "",
  "",
  "",
  "",
  "",
  "",
  "",
  "",
  "",
  "",
  "",
  "",
  "",
  "",
  "",
  "",
  "",
  "",
  "",
  "",
  "",
  "",
  "",
  "",
  "",
  "",
  "",
  "",
  "",
  "",
  "纊褜鍈銈蓜俉炻昱棈鋹曻彅丨仡仼伀伃伹佖侒侊侚侔俍偀倢俿倞偆偰偂傔僴僘兊兤冝冾凬刕劜劦勀勛匀匇匤卲厓厲叝﨎咜咊咩哿喆坙坥垬埈埇﨏",
  "犾猤猪獷玽珉珖珣珒琇珵琦琪琩琮瑢璉璟甁畯皂皜皞皛皦益睆劯砡硎硤硺礰礼神祥禔福禛竑竧靖竫箞精絈絜綷綠緖繒罇羡羽茁荢荿菇菶葈蒴蕓蕙",
  "",
  "",
  "",
  "",
  "",
  "",
  "",
  "",
  "",
  "",
  "",
  "ⅰⅱⅲⅳⅴⅵⅶⅷⅸⅹⅠⅡⅢⅣⅤⅥⅦⅧⅨⅩ￢￤＇＂㈱№℡∵纊褜鍈銈蓜俉炻昱棈鋹曻彅丨仡仼伀伃伹佖侒侊侚侔俍偀倢俿倞偆偰偂傔僴僘兊",
  "涖涬淏淸淲淼渹湜渧渼溿澈澵濵瀅瀇瀨炅炫焏焄煜煆煇凞燁燾犱犾猤猪獷玽珉珖珣珒琇珵琦琪琩琮瑢璉璟甁畯皂皜皞皛皦益睆劯砡硎硤硺礰礼神",
  "髜魵魲鮏鮱鮻鰀鵰鵫鶴鸙黑"]⟩

def cp932High : Plane := ⟨0x81, 0x80, #[
  ".................￠￡.......................................................￢",
  "",
  "",
  "",
  "",
  "",
  "〝〟№㏍℡㊤㊥㊦㊧㊨㈱㈲㈹㍾㍽㍼≒≡∫∮∑√⊥∠∟⊿∵∩∪",
  "",
  "",
  "",
  "",
  "",
  "",
  "",
  "",
  "",
  "",
  "",
  "",
  "",
  "",
  "",
  "",
  "",
  "",
  "",
  "",
  "",
  "",
  "",
  "",
  "\uf8f0\u0080...............................\uf8f0\uf8f0\uf8f0｡\uf8f0｢\uf8f0｣\uf8f0､\uf8f0･\uf8f0" ++
    "ｦ\uf8f0ｧ\uf8f0ｨ\uf8f0ｩ\uf8f0ｪ\uf8f0ｫ\uf8f0ｬ\uf8f0ｭ\uf8f0ｮ\uf8f0ｯ\uf8f0ｰ\uf8f0ｱ\uf8f0ｲ\uf8f0ｳ" ++
    "\uf8f0ｴ\uf8f0ｵ\uf8f0ｶ\uf8f0ｷ\uf8f0ｸ\uf8f0ｹ\uf8f0ｺ\uf8f0ｻ\uf8f0ｼ\uf8f0ｽ\uf8f0ｾ\uf8f0ｿ\uf8f0ﾀ" ++
    "\uf8f0ﾁ\uf8f0ﾂ\uf8f0ﾃ\uf8f0ﾄ\uf8f0ﾅ\uf8f0ﾆ\uf8f0ﾇ\uf8f0ﾈ\uf8f0ﾉ\uf8f0ﾊ\uf8f0ﾋ\uf8f0ﾌ\uf8f0ﾍ" ++
    "\uf8f0ﾎ\uf8f0ﾏ\uf8f0ﾐ\uf8f0ﾑ\uf8f0ﾒ\uf8f0ﾓ\uf8f0ﾔ\uf8f0ﾕ\uf8f0ﾖ\uf8f0ﾗ\uf8f0ﾘ\uf8f0ﾙ\uf8f0ﾚ" ++
    "\uf8f0ﾛ\uf8f0ﾜ\uf8f0ﾝ\uf8f0ﾞ\uf8f0ﾟ",
  "｡\u0080...............................｡\uf8f0",
  "｢\u0080...............................｢\uf8f0",
  "｣\u0080...............................｣\uf8f0",
  "､\u0080...............................､\uf8f0",
  "･\u0080...............................･\uf8f0",
  "ｦ\u0080...............................ｦ\uf8f0",
  "ｧ\u0080...............................ｧ\uf8f0",
  "ｨ\u0080...............................ｨ\uf8f0",
  "ｩ\u0080...............................ｩ\uf8f0",
  "ｪ\u0080...............................ｪ\uf8f0",
  "ｫ\u0080...............................ｫ\uf8f0",
  "ｬ\u0080...............................ｬ\uf8f0",
  "ｭ\u0080...............................ｭ\uf8f0",
  "ｮ\u0080...............................ｮ\uf8f0",
  "ｯ\u0080...............................ｯ\uf8f0",
  "ｰ\u0080...............................ｰ\uf8f0",
  "ｱ\u0080...............................ｱ\uf8f0",
  "ｲ\u0080...............................ｲ\uf8f0",
  "ｳ\u0080...............................ｳ\uf8f0",
  "ｴ\u0080...............................ｴ\uf8f0",
  "ｵ\u0080...............................ｵ\uf8f0",
  "ｶ\u0080...............................ｶ\uf8f0",
  "ｷ\u0080...............................ｷ\uf8f0",
  "ｸ\u0080...............................ｸ\uf8f0",
  "ｹ\u0080...............................ｹ\uf8f0",
  "ｺ\u0080...............................ｺ\uf8f0",
  "ｻ\u0080...............................ｻ\uf8f0",
  "ｼ\u0080...............................ｼ\uf8f0",
  "ｽ\u0080...............................ｽ\uf8f0",
  "ｾ\u0080...............................ｾ\uf8f0",
  "ｿ\u0080...............................ｿ\uf8f0",
  "ﾀ\u0080...............................ﾀ\uf8f0",
  "ﾁ\u0080...............................ﾁ\uf8f0",
  "ﾂ\u0080...............................ﾂ\uf8f0",
  "ﾃ\u0080...............................ﾃ\uf8f0",
  "ﾄ\u0080...............................ﾄ\uf8f0",
  "ﾅ\u0080...............................ﾅ\uf8f0",
  "ﾆ\u0080...............................ﾆ\uf8f0",
  "ﾇ\u0080...............................ﾇ\uf8f0",
  "ﾈ\u0080...............................ﾈ\uf8f0",
  "ﾉ\u0080...............................ﾉ\uf8f0",
  "ﾊ\u0080...............................ﾊ\uf8f0",
  "ﾋ\u0080...............................ﾋ\uf8f0",
  "ﾌ\u0080...............................ﾌ\uf8f0",
  "ﾍ\u0080...............................ﾍ\uf8f0",
  "ﾎ\u0080...............................ﾎ\uf8f0",
  "ﾏ\u0080...............................ﾏ\uf8f0",
  "ﾐ\u0080...............................ﾐ\uf8f0",
  "ﾑ\u0080...............................ﾑ\uf8f0",
  "ﾒ\u0080...............................ﾒ\uf8f0",
  "ﾓ\u0080...............................ﾓ\uf8f0",
  "ﾔ\u0080...............................ﾔ\uf8f0",
  "ﾕ\u0080...............................ﾕ\uf8f0",
  "ﾖ\u0080...............................ﾖ\uf8f0",
  "ﾗ\u0080...............................ﾗ\uf8f0",
  "ﾘ\u0080...............................ﾘ\uf8f0",
  "ﾙ\u0080...............................ﾙ\uf8f0",
  "ﾚ\u0080...............................ﾚ\uf8f0",
  "ﾛ\u0080...............................ﾛ\uf8f0",
  "ﾜ\u0080...............................ﾜ\uf8f0",
  "ﾝ\u0080...............................ﾝ\uf8f0",
  "ﾞ\u0080...............................ﾞ\uf8f0",
  "ﾟ\u0080...............................ﾟ\uf8f0",
  "",
  "",
  "",
  "",
  "",
  "",
  "",
  "",
  "",
  "",
  "",
  "",
  "",
  "塚增墲夋奓奛奝奣妤妺孖寀甯寘寬尞岦岺峵崧嵓﨑嵂嵭嶸嶹巐弡弴彧德忞恝悅悊惞惕愠惲愑愷愰憘戓抦揵摠撝擎敎昀昕昻昉昮昞昤晥晗晙晴晳暙暠暲暿曺朎朗杦枻桒柀栁桄棏﨓楨﨔榘槢樰橫橆橳橾櫢櫤毖氿汜沆汯泚洄涇" ++
    "浯涖涬淏淸淲淼渹湜渧渼溿澈澵濵瀅瀇瀨炅炫焏焄煜煆煇凞燁燾犱",
  "蕫﨟薰蘒﨡蠇裵訒訷詹誧誾諟諸諶譓譿賰賴贒赶﨣軏﨤逸遧郞都鄕鄧釚釗釞釭釮釤釥鈆鈐鈊鈺鉀鈼鉎鉙鉑鈹鉧銧鉷鉸鋧鋗鋙鋐﨧鋕鋠鋓錥錡鋻﨨錞鋿錝錂鍰鍗鎤鏆鏞鏸鐱鑅鑈閒隆﨩隝隯霳霻靃靍靏靑靕顗顥飯飼餧館馞驎" ++
    "髙髜魵魲鮏鮱鮻鰀鵰鵫鶴鸙黑..ⅰⅱⅲⅳⅴⅵⅶⅷⅸⅹ￢￤＇＂",
  "",
  "",
  "",
  "",
  "",
  "",
  "",
  "",
  "",
  "",
  "",
  "兤冝冾凬刕劜劦勀勛匀匇匤卲厓厲叝﨎咜咊咩哿喆坙坥垬埈埇﨏塚增墲夋奓奛奝奣妤妺孖寀甯寘寬尞岦岺峵崧嵓﨑嵂嵭嶸嶹巐弡弴彧德忞恝悅悊惞惕愠惲愑愷愰憘戓抦揵摠撝擎敎昀昕昻昉昮昞昤晥晗晙晴晳暙暠暲暿曺朎" ++
    "朗杦枻桒柀栁桄棏﨓楨﨔榘槢樰橫橆橳橾櫢櫤毖氿汜沆汯泚洄涇浯",
  "祥禔福禛竑竧靖竫箞精絈絜綷綠緖繒罇羡羽茁荢荿菇菶葈蒴蕓蕙蕫﨟薰蘒﨡蠇裵訒訷詹誧誾諟諸諶譓譿賰賴贒赶﨣軏﨤逸遧郞都鄕鄧釚釗釞釭釮釤釥鈆鈐鈊鈺鉀鈼鉎鉙鉑鈹鉧銧鉷鉸鋧鋗鋙鋐﨧鋕鋠鋓錥錡鋻﨨錞鋿錝錂鍰" ++
    "鍗鎤鏆鏞鏸鐱鑅鑈閒隆﨩隝隯霳霻靃靍靏靑靕顗顥飯飼餧館馞驎髙",
  "",
  "\uf8f1\u0080...............................\uf8f1\uf8f0\uf8f1｡\uf8f1｢\uf8f1｣\uf8f1､\uf8f1･\uf8f1" ++
    "ｦ\uf8f1ｧ\uf8f1ｨ\uf8f1ｩ\uf8f1ｪ\uf8f1ｫ\uf8f1ｬ\uf8f1ｭ\uf8f1ｮ\uf8f1ｯ\uf8f1ｰ\uf8f1ｱ\uf8f1ｲ\uf8f1ｳ" ++
    "\uf8f1ｴ\uf8f1ｵ\uf8f1ｶ\uf8f1ｷ\uf8f1ｸ\uf8f1ｹ\uf8f1ｺ\uf8f1ｻ\uf8f1ｼ\uf8f1ｽ\uf8f1ｾ\uf8f1ｿ\uf8f1ﾀ" ++
    "\uf8f1ﾁ\uf8f1ﾂ\uf8f1ﾃ\uf8f1ﾄ\uf8f1ﾅ\uf8f1ﾆ\uf8f1ﾇ\uf8f1ﾈ\uf8f1ﾉ\uf8f1ﾊ\uf8f1ﾋ\uf8f1ﾌ\uf8f1ﾍ" ++
    "\uf8f1ﾎ\uf8f1ﾏ\uf8f1ﾐ\uf8f1ﾑ\uf8f1ﾒ\uf8f1ﾓ\uf8f1ﾔ\uf8f1ﾕ\uf8f1ﾖ\uf8f1ﾗ\uf8f1ﾘ\uf8f1ﾙ\uf8f1ﾚ" ++
    "\uf8f1ﾛ\uf8f1ﾜ\uf8f1ﾝ\uf8f1ﾞ\uf8f1ﾟ",
  "\uf8f2\u0080...............................\uf8f2\uf8f0\uf8f2｡\uf8f2｢\uf8f2｣\uf8f2､\uf8f2･\uf8f2" ++
    "ｦ\uf8f2ｧ\uf8f2ｨ\uf8f2ｩ\uf8f2ｪ\uf8f2ｫ\uf8f2ｬ\uf8f2ｭ\uf8f2ｮ\uf8f2ｯ\uf8f2ｰ\uf8f2ｱ\uf8f2ｲ\uf8f2ｳ" ++
    "\uf8f2ｴ\uf8f2ｵ\uf8f2ｶ\uf8f2ｷ\uf8f2ｸ\uf8f2ｹ\uf8f2ｺ\uf8f2ｻ\uf8f2ｼ\uf8f2ｽ\uf8f2ｾ\uf8f2ｿ\uf8f2ﾀ" ++
    "\uf8f2ﾁ\uf8f2ﾂ\uf8f2ﾃ\uf8f2ﾄ\uf8f2ﾅ\uf8f2ﾆ\uf8f2ﾇ\uf8f2ﾈ\uf8f2ﾉ\uf8f2ﾊ\uf8f2ﾋ\uf8f2ﾌ\uf8f2ﾍ" ++
    "\uf8f2ﾎ\uf8f2ﾏ\uf8f2ﾐ\uf8f2ﾑ\uf8f2ﾒ\uf8f2ﾓ\uf8f2ﾔ\uf8f2ﾕ\uf8f2ﾖ\uf8f2ﾗ\uf8f2ﾘ\uf8f2ﾙ\uf8f2ﾚ" ++
    "\uf8f2ﾛ\uf8f2ﾜ\uf8f2ﾝ\uf8f2ﾞ\uf8f2ﾟ"]⟩

end Newswire.Charset
