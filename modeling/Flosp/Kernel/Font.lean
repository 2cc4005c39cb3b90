import Mathlib.Data.BitVec

/-! The fonts of `boot_font.h`. A table lists the glyphs of the 256 characters, each as one
number whose bytes are the rows of the glyph, the top row first. -/

namespace Flosp.Kernel

def vgafont8Table : List Nat :=
  [
    0x0000000000000000, 0x7e81a581bd99817e, 0x7effdbffc3e7ff7e, 0x6cfefefe7c381000,
    0x10387cfe7c381000, 0x387c38fefe7c387c, 0x1010387cfe7c387c, 0x0000183c3c180000,
    0xffffe7c3c3e7ffff, 0x003c664242663c00, 0xffc399bdbd99c3ff, 0x0f070f7dcccccc78,
    0x3c6666663c187e18, 0x3f333f303070f0e0, 0x7f637f636367e6c0, 0x995a3ce7e73c5a99,
    0x80e0f8fef8e08000, 0x020e3efe3e0e0200, 0x183c7e18187e3c18, 0x6666666666006600,
    0x7fdbdb7b1b1b1b00, 0x3e63386c6c38cc78, 0x000000007e7e7e00, 0x183c7e187e3c18ff,
    0x183c7e1818181800, 0x181818187e3c1800, 0x00180cfe0c180000, 0x003060fe60300000,
    0x0000c0c0c0fe0000, 0x002466ff66240000, 0x00183c7effff0000, 0x00ffff7e3c180000,
    0x0000000000000000, 0x3078783030003000, 0x6c6c6c0000000000, 0x6c6cfe6cfe6c6c00,
    0x307cc0780cf83000, 0x00c6cc183066c600, 0x386c3876dccc7600, 0x6060c00000000000,
    0x1830606060301800, 0x6030181818306000, 0x00663cff3c660000, 0x003030fc30300000,
    0x0000000000303060, 0x000000fc00000000, 0x0000000000303000, 0x060c183060c08000,
    0x7cc6cedef6e67c00, 0x307030303030fc00, 0x78cc0c3860ccfc00, 0x78cc0c380ccc7800,
    0x1c3c6cccfe0c1e00, 0xfcc0f80c0ccc7800, 0x3860c0f8cccc7800, 0xfccc0c1830303000,
    0x78cccc78cccc7800, 0x78cccc7c0c187000, 0x0030300000303000, 0x0030300000303060,
    0x183060c060301800, 0x0000fc0000fc0000, 0x6030180c18306000, 0x78cc0c1830003000,
    0x7cc6dededec07800, 0x3078ccccfccccc00, 0xfc66667c6666fc00, 0x3c66c0c0c0663c00,
    0xf86c6666666cf800, 0xfe6268786862fe00, 0xfe6268786860f000, 0x3c66c0c0ce663e00,
    0xccccccfccccccc00, 0x7830303030307800, 0x1e0c0c0ccccc7800, 0xe6666c786c66e600,
    0xf06060606266fe00, 0xc6eefefed6c6c600, 0xc6e6f6decec6c600, 0x386cc6c6c66c3800,
    0xfc66667c6060f000, 0x78ccccccdc781c00, 0xfc66667c6c66e600, 0x78cce0701ccc7800,
    0xfcb4303030307800, 0xccccccccccccfc00, 0xcccccccccc783000, 0xc6c6c6d6feeec600,
    0xc6c66c38386cc600, 0xcccccc7830307800, 0xfec68c183266fe00, 0x7860606060607800,
    0xc06030180c060200, 0x7818181818187800, 0x10386cc600000000, 0x00000000000000ff,
    0x3030180000000000, 0x0000780c7ccc7600, 0xe060607c6666dc00, 0x000078ccc0cc7800,
    0x1c0c0c7ccccc7600, 0x000078ccfcc07800, 0x386c60f06060f000, 0x000076cccc7c0cf8,
    0xe0606c766666e600, 0x3000703030307800, 0x0c000c0c0ccccc78, 0xe060666c786ce600,
    0x7030303030307800, 0x0000ccfefed6c600, 0x0000f8cccccccc00, 0x000078cccccc7800,
    0x0000dc66667c60f0, 0x000076cccc7c0c1e, 0x0000dc766660f000, 0x00007cc0780cf800,
    0x10307c3030341800, 0x0000cccccccc7600, 0x0000cccccc783000, 0x0000c6d6fefe6c00,
    0x0000c66c386cc600, 0x0000cccccc7c0cf8, 0x0000fc983064fc00, 0x1c3030e030301c00,
    0x1818180018181800, 0xe030301c3030e000, 0x76dc000000000000, 0x0010386cc6c6fe00,
    0x78ccc0cc78180c78, 0x00cc00cccccc7e00, 0x1c0078ccfcc07800, 0x7ec33c063e663f00,
    0xcc00780c7ccc7e00, 0xe000780c7ccc7e00, 0x3030780c7ccc7e00, 0x000078c0c0780c38,
    0x7ec33c667e603c00, 0xcc0078ccfcc07800, 0xe00078ccfcc07800, 0xcc00703030307800,
    0x7cc6381818183c00, 0xe000703030307800, 0xc6386cc6fec6c600, 0x30300078ccfccc00,
    0x1c00fc607860fc00, 0x00007f0c7fcc7f00, 0x3e6cccfeccccce00, 0x78cc0078cccc7800,
    0x00cc0078cccc7800, 0x00e00078cccc7800, 0x78cc00cccccc7e00, 0x00e000cccccc7e00,
    0x00cc00cccc7c0cf8, 0xc3183c66663c1800, 0xcc00cccccccc7800, 0x18187ec0c07e1818,
    0x386c64f060e6fc00, 0xcccc78fc30fc3030, 0xf8ccccfac6cfc6c7, 0x0e1b183c1818d870,
    0x1c00780c7ccc7e00, 0x3800703030307800, 0x001c0078cccc7800, 0x001c00cccccc7e00,
    0x00f800f8cccccc00, 0xfc00ccecfcdccc00, 0x3c6c6c3e007e0000, 0x386c6c38007c0000,
    0x30003060c0cc7800, 0x000000fcc0c00000, 0x000000fc0c0c0000, 0xc3c6ccde3366cc0f,
    0xc3c6ccdb376fcf03, 0x1818001818181800, 0x003366cc66330000, 0x00cc663366cc0000,
    0x2288228822882288, 0x55aa55aa55aa55aa, 0xdb77dbeedb77dbee, 0x1818181818181818,
    0x18181818f8181818, 0x1818f818f8181818, 0x36363636f6363636, 0x00000000fe363636,
    0x0000f818f8181818, 0x3636f606f6363636, 0x3636363636363636, 0x0000fe06f6363636,
    0x3636f606fe000000, 0x36363636fe000000, 0x1818f818f8000000, 0x00000000f8181818,
    0x181818181f000000, 0x18181818ff000000, 0x00000000ff181818, 0x181818181f181818,
    0x00000000ff000000, 0x18181818ff181818, 0x18181f181f181818, 0x3636363637363636,
    0x363637303f000000, 0x00003f3037363636, 0x3636f700ff000000, 0x0000ff00f7363636,
    0x3636373037363636, 0x0000ff00ff000000, 0x3636f700f7363636, 0x1818ff00ff000000,
    0x36363636ff000000, 0x0000ff00ff181818, 0x00000000ff363636, 0x363636363f000000,
    0x18181f181f000000, 0x00001f181f181818, 0x000000003f363636, 0x36363636ff363636,
    0x1818ff18ff181818, 0x18181818f8000000, 0x000000001f181818, 0xffffffffffffffff,
    0x00000000ffffffff, 0xf0f0f0f0f0f0f0f0, 0x0f0f0f0f0f0f0f0f, 0xffffffff00000000,
    0x000076dcc8dc7600, 0x0078ccf8ccf8c0c0, 0x00fcccc0c0c0c000, 0x00fe6c6c6c6c6c00,
    0xfccc603060ccfc00, 0x00007ed8d8d87000, 0x00666666667c60c0, 0x0076dc1818181800,
    0xfc3078cccc7830fc, 0x386cc6fec66c3800, 0x386cc6c66c6cee00, 0x1c30187ccccc7800,
    0x00007edbdb7e0000, 0x060c7edbdb7e60c0, 0x3860c0f8c0603800, 0x78cccccccccccc00,
    0x00fc00fc00fc0000, 0x3030fc303000fc00, 0x603018306000fc00, 0x183060301800fc00,
    0x0e1b1b1818181818, 0x1818181818d8d870, 0x303000fc00303000, 0x0076dc0076dc0000,
    0x386c6c3800000000, 0x0000001818000000, 0x0000000018000000, 0x0f0c0c0cec6c3c1c,
    0x786c6c6c6c000000, 0x7018306078000000, 0x00003c3c3c3c0000, 0x0000000000000000]

def vgafont14Table : List Nat :=
  [
    0x0000000000000000000000000000, 0x00007e81a58181bd99817e000000,
    0x00007effdbffffc3e7ff7e000000, 0x0000006cfefefefe7c3810000000,
    0x00000010387cfe7c381000000000, 0x0000183c3ce7e7e718183c000000,
    0x0000183c7effff7e18183c000000, 0x0000000000183c3c180000000000,
    0xffffffffffe7c3c3e7ffffffffff, 0x000000003c664242663c00000000,
    0xffffffffc399bdbd99c3ffffffff, 0x00001e0e1a3278cccccc78000000,
    0x00003c6666663c187e1818000000, 0x00003f333f30303070f0e0000000,
    0x00007f637f63636367e7e6c00000, 0x00001818db3ce73cdb1818000000,
    0x000080c0e0f8fef8e0c080000000, 0x000002060e3efe3e0e0602000000,
    0x0000183c7e1818187e3c18000000, 0x0000666666666666006666000000,
    0x00007fdbdbdb7b1b1b1b1b000000, 0x007cc660386cc6c66c380cc67c00,
    0x0000000000000000fefefe000000, 0x0000183c7e1818187e3c187e0000,
    0x0000183c7e181818181818000000, 0x00001818181818187e3c18000000,
    0x00000000180cfe0c180000000000, 0x000000003060fe60300000000000,
    0x0000000000c0c0c0fe0000000000, 0x00000000286cfe6c280000000000,
    0x0000001038387c7cfefe00000000, 0x000000fefe7c7c38381000000000,
    0x0000000000000000000000000000, 0x0000183c3c3c1818001818000000,
    0x0066666624000000000000000000, 0x00006c6cfe6c6c6cfe6c6c000000,
    0x18187cc6c2c07c0686c67c181800, 0x00000000c2c60c183066c6000000,
    0x0000386c6c3876dccccc76000000, 0x0030303060000000000000000000,
    0x00000c183030303030180c000000, 0x000030180c0c0c0c0c1830000000,
    0x00000000663cff3c660000000000, 0x0000000018187e18180000000000,
    0x0000000000000000181818300000, 0x000000000000fe00000000000000,
    0x0000000000000000001818000000, 0x000002060c183060c08000000000,
    0x00007cc6cedef6e6c6c67c000000, 0x000018387818181818187e000000,
    0x00007cc6060c183060c6fe000000, 0x00007cc606063c0606c67c000000,
    0x00000c1c3c6cccfe0c0c1e000000, 0x0000fec0c0c0fc0606c67c000000,
    0x00003860c0c0fcc6c6c67c000000, 0x0000fec6060c1830303030000000,
    0x00007cc6c6c67cc6c6c67c000000, 0x00007cc6c6c67e06060c78000000,
    0x0000001818000000181800000000, 0x0000001818000000181830000000,
    0x0000060c18306030180c06000000, 0x00000000007e00007e0000000000,
    0x00006030180c060c183060000000, 0x00007cc6c60c1818001818000000,
    0x00007cc6c6dedededcc07c000000, 0x000010386cc6c6fec6c6c6000000,
    0x0000fc6666667c666666fc000000, 0x00003c66c2c0c0c0c2663c000000,
    0x0000f86c66666666666cf8000000, 0x0000fe66626878686266fe000000,
    0x0000fe66626878686060f0000000, 0x00003c66c2c0c0dec6663a000000,
    0x0000c6c6c6c6fec6c6c6c6000000, 0x00003c181818181818183c000000,
    0x00001e0c0c0c0c0ccccc78000000, 0x0000e6666c6c786c6c66e6000000,
    0x0000f060606060606266fe000000, 0x0000c6eefefed6c6c6c6c6000000,
    0x0000c6e6f6fedecec6c6c6000000, 0x0000386cc6c6c6c6c66c38000000,
    0x0000fc6666667c606060f0000000, 0x00007cc6c6c6c6d6de7c0c0e0000,
    0x0000fc6666667c6c6666e6000000, 0x00007cc6c660380cc6c67c000000,
    0x00007e7e5a18181818183c000000, 0x0000c6c6c6c6c6c6c6c67c000000,
    0x0000c6c6c6c6c6c66c3810000000, 0x0000c6c6c6c6d6d6fe7c6c000000,
    0x0000c6c66c3838386cc6c6000000, 0x0000666666663c1818183c000000,
    0x0000fec68c183060c2c6fe000000, 0x00003c303030303030303c000000,
    0x000080c0e070381c0e0602000000, 0x00003c0c0c0c0c0c0c0c3c000000,
    0x10386cc600000000000000000000, 0x000000000000000000000000ff00,
    0x3030180000000000000000000000, 0x0000000000780c7ccccc76000000,
    0x0000e06060786c6666667c000000, 0x00000000007cc6c0c0c67c000000,
    0x00001c0c0c3c6ccccccc76000000, 0x00000000007cc6fec0c67c000000,
    0x0000386c6460f0606060f0000000, 0x000000000076cccccc7c0ccc7800,
    0x0000e060606c76666666e6000000, 0x000018180038181818183c000000,
    0x00000606000e0606060666663c00, 0x0000e06060666c786c66e6000000,
    0x000038181818181818183c000000, 0x0000000000ecfed6d6d6c6000000,
    0x0000000000dc6666666666000000, 0x00000000007cc6c6c6c67c000000,
    0x0000000000dc6666667c6060f000, 0x000000000076cccccc7c0c0c1e00,
    0x0000000000dc76666060f0000000, 0x00000000007cc6701cc67c000000,
    0x0000103030fc303030361c000000, 0x0000000000cccccccccc76000000,
    0x0000000000666666663c18000000, 0x0000000000c6c6d6d6fe6c000000,
    0x0000000000c66c38386cc6000000, 0x0000000000c6c6c6c67e060cf800,
    0x0000000000fecc183066fe000000, 0x00000e181818701818180e000000,
    0x0000181818180018181818000000, 0x0000701818180e18181870000000,
    0x000076dc00000000000000000000, 0x0000000010386cc6c6fe00000000,
    0x00003c66c2c0c0c2663c0c067c00, 0x0000cccc00cccccccccc76000000,
    0x000c1830007cc6fec0c67c000000, 0x0010386c00780c7ccccc76000000,
    0x0000cccc00780c7ccccc76000000, 0x0060301800780c7ccccc76000000,
    0x00386c3800780c7ccccc76000000, 0x000000003c6660663c0c063c0000,
    0x0010386c007cc6fec0c67c000000, 0x0000cccc007cc6fec0c67c000000,
    0x00603018007cc6fec0c67c000000, 0x000066660038181818183c000000,
    0x00183c660038181818183c000000, 0x006030180038181818183c000000,
    0x00c6c610386cc6c6fec6c6000000, 0x386c3800386cc6c6fec6c6000000,
    0x18306000fe66607c6066fe000000, 0x00000000cc76367ed8d86e000000,
    0x00003e6cccccfeccccccce000000, 0x0010386c007cc6c6c6c67c000000,
    0x0000c6c6007cc6c6c6c67c000000, 0x00603018007cc6c6c6c67c000000,
    0x003078cc00cccccccccc76000000, 0x0060301800cccccccccc76000000,
    0x0000c6c600c6c6c6c67e060c7800, 0x00c6c6386cc6c6c6c66c38000000,
    0x00c6c600c6c6c6c6c6c67c000000, 0x0018183c666060663c1818000000,
    0x00386c6460f0606060e6fc000000, 0x000066663c187e187e1818000000,
    0x00f8ccccf8c4ccdeccccc6000000, 0x000e1b1818187e18181818d87000,
    0x0018306000780c7ccccc76000000, 0x000c18300038181818183c000000,
    0x00183060007cc6c6c6c67c000000, 0x0018306000cccccccccc76000000,
    0x000076dc00dc6666666666000000, 0x76dc00c6e6f6fedecec6c6000000,
    0x003c6c6c3e007e00000000000000, 0x00386c6c38007c00000000000000,
    0x0000303000303060c6c67c000000, 0x000000000000fec0c0c000000000,
    0x000000000000fe06060600000000, 0x00c0c0c6ccd83060dc860c183e00,
    0x00c0c0c6ccd83066ce9e3e060600, 0x000018180018183c3c3c18000000,
    0x00000000366cd86c360000000000, 0x00000000d86c366cd80000000000,
    0x1144114411441144114411441144, 0x55aa55aa55aa55aa55aa55aa55aa,
    0xdd77dd77dd77dd77dd77dd77dd77, 0x1818181818181818181818181818,
    0x18181818181818f8181818181818, 0x1818181818f818f8181818181818,
    0x36363636363636f6363636363636, 0x00000000000000fe363636363636,
    0x0000000000f818f8181818181818, 0x3636363636f606f6363636363636,
    0x3636363636363636363636363636, 0x0000000000fe06f6363636363636,
    0x3636363636f606fe000000000000, 0x36363636363636fe000000000000,
    0x1818181818f818f8000000000000, 0x00000000000000f8181818181818,
    0x181818181818181f000000000000, 0x18181818181818ff000000000000,
    0x00000000000000ff181818181818, 0x181818181818181f181818181818,
    0x00000000000000ff000000000000, 0x18181818181818ff181818181818,
    0x18181818181f181f181818181818, 0x3636363636363637363636363636,
    0x363636363637303f000000000000, 0x00000000003f3037363636363636,
    0x3636363636f700ff000000000000, 0x0000000000ff00f7363636363636,
    0x3636363636373037363636363636, 0x0000000000ff00ff000000000000,
    0x3636363636f700f7363636363636, 0x1818181818ff00ff000000000000,
    0x36363636363636ff000000000000, 0x0000000000ff00ff181818181818,
    0x00000000000000ff363636363636, 0x363636363636363f000000000000,
    0x18181818181f181f000000000000, 0x00000000001f181f181818181818,
    0x000000000000003f363636363636, 0x36363636363636ff363636363636,
    0x1818181818ff18ff181818181818, 0x18181818181818f8000000000000,
    0x000000000000001f181818181818, 0xffffffffffffffffffffffffffff,
    0x00000000000000ffffffffffffff, 0xf0f0f0f0f0f0f0f0f0f0f0f0f0f0,
    0x0f0f0f0f0f0f0f0f0f0f0f0f0f0f, 0xffffffffffffff00000000000000,
    0x000000000076dcd8d8dc76000000, 0x000000007cc6fcc6c6fcc0c04000,
    0x0000fec6c6c0c0c0c0c0c0000000, 0x00000000fe6c6c6c6c6c6c000000,
    0x0000fec66030183060c6fe000000, 0x00000000007ed8d8d8d870000000,
    0x00000000666666667c6060c00000, 0x0000000076dc1818181818000000,
    0x00007e183c6666663c187e000000, 0x0000386cc6c6fec6c66c38000000,
    0x0000386cc6c6c66c6c6cee000000, 0x00001e30180c3e6666663c000000,
    0x00000000007edbdb7e0000000000, 0x000003067edbdbf37e60c0000000,
    0x00001c3060607c6060301c000000, 0x0000007cc6c6c6c6c6c6c6000000,
    0x000000fe0000fe0000fe00000000, 0x00000018187e18180000ff000000,
    0x000030180c060c1830007e000000, 0x00000c18306030180c007e000000,
    0x00000e1b1b181818181818181818, 0x1818181818181818d8d870000000,
    0x0000001818007e00181800000000, 0x0000000076dc0076dc0000000000,
    0x00386c6c38000000000000000000, 0x0000000000001818000000000000,
    0x0000000000000018000000000000, 0x000f0c0c0c0c0cec6c3c1c000000,
    0x00d86c6c6c6c6c00000000000000, 0x0070d83060c8f800000000000000,
    0x000000007c7c7c7c7c7c00000000, 0x0000000000000000000000000000]

def vgafont16Table : List Nat :=
  [
    0x00000000000000000000000000000000, 0x00007e81a58181bd9981817e00000000,
    0x00007effdbffffc3e7ffff7e00000000, 0x000000006cfefefefe7c381000000000,
    0x0000000010387cfe7c38100000000000, 0x000000183c3ce7e7e718183c00000000,
    0x000000183c7effff7e18183c00000000, 0x000000000000183c3c18000000000000,
    0xffffffffffffe7c3c3e7ffffffffffff, 0x00000000003c664242663c0000000000,
    0xffffffffffc399bdbd99c3ffffffffff, 0x00001e0e1a3278cccccccc7800000000,
    0x00003c666666663c187e181800000000, 0x00003f333f3030303070f0e000000000,
    0x00007f637f6363636367e7e6c0000000, 0x0000001818db3ce73cdb181800000000,
    0x0080c0e0f0f8fef8f0e0c08000000000, 0x0002060e1e3efe3e1e0e060200000000,
    0x0000183c7e1818187e3c180000000000, 0x00006666666666666600666600000000,
    0x00007fdbdbdb7b1b1b1b1b1b00000000, 0x007cc660386cc6c66c380cc67c000000,
    0x0000000000000000fefefefe00000000, 0x0000183c7e1818187e3c187e00000000,
    0x0000183c7e1818181818181800000000, 0x0000181818181818187e3c1800000000,
    0x0000000000180cfe0c18000000000000, 0x00000000003060fe6030000000000000,
    0x000000000000c0c0c0fe000000000000, 0x00000000002466ff6624000000000000,
    0x000000001038387c7cfefe0000000000, 0x00000000fefe7c7c3838100000000000,
    0x00000000000000000000000000000000, 0x0000183c3c3c18181800181800000000,
    0x00666666240000000000000000000000, 0x0000006c6cfe6c6c6cfe6c6c00000000,
    0x18187cc6c2c07c060686c67c18180000, 0x00000000c2c60c183060c68600000000,
    0x0000386c6c3876dccccccc7600000000, 0x00303030600000000000000000000000,
    0x00000c18303030303030180c00000000, 0x000030180c0c0c0c0c0c183000000000,
    0x0000000000663cff3c66000000000000, 0x000000000018187e1818000000000000,
    0x00000000000000000018181830000000, 0x00000000000000fe0000000000000000,
    0x00000000000000000000181800000000, 0x0000000002060c183060c08000000000,
    0x00003c66c3c3dbdbc3c3663c00000000, 0x00001838781818181818187e00000000,
    0x00007cc6060c183060c0c6fe00000000, 0x00007cc606063c060606c67c00000000,
    0x00000c1c3c6cccfe0c0c0c1e00000000, 0x0000fec0c0c0fc060606c67c00000000,
    0x00003860c0c0fcc6c6c6c67c00000000, 0x0000fec606060c183030303000000000,
    0x00007cc6c6c67cc6c6c6c67c00000000, 0x00007cc6c6c67e0606060c7800000000,
    0x00000000181800000018180000000000, 0x00000000181800000018183000000000,
    0x000000060c18306030180c0600000000, 0x00000000007e00007e00000000000000,
    0x0000006030180c060c18306000000000, 0x00007cc6c60c18181800181800000000,
    0x0000007cc6c6dedededcc07c00000000, 0x000010386cc6c6fec6c6c6c600000000,
    0x0000fc6666667c66666666fc00000000, 0x00003c66c2c0c0c0c0c2663c00000000,
    0x0000f86c6666666666666cf800000000, 0x0000fe6662687868606266fe00000000,
    0x0000fe6662687868606060f000000000, 0x00003c66c2c0c0dec6c6663a00000000,
    0x0000c6c6c6c6fec6c6c6c6c600000000, 0x00003c18181818181818183c00000000,
    0x00001e0c0c0c0c0ccccccc7800000000, 0x0000e666666c78786c6666e600000000,
    0x0000f06060606060606266fe00000000, 0x0000c3e7ffffdbc3c3c3c3c300000000,
    0x0000c6e6f6fedecec6c6c6c600000000, 0x00007cc6c6c6c6c6c6c6c67c00000000,
    0x0000fc6666667c60606060f000000000, 0x00007cc6c6c6c6c6c6d6de7c0c0e0000,
    0x0000fc6666667c6c666666e600000000, 0x00007cc6c660380c06c6c67c00000000,
    0x0000ffdb991818181818183c00000000, 0x0000c6c6c6c6c6c6c6c6c67c00000000,
    0x0000c3c3c3c3c3c3c3663c1800000000, 0x0000c3c3c3c3c3dbdbff666600000000,
    0x0000c3c3663c18183c66c3c300000000, 0x0000c3c3c3663c181818183c00000000,
    0x0000ffc3860c183060c1c3ff00000000, 0x00003c30303030303030303c00000000,
    0x00000080c0e070381c0e060200000000, 0x00003c0c0c0c0c0c0c0c0c3c00000000,
    0x10386cc6000000000000000000000000, 0x00000000000000000000000000ff0000,
    0x30301800000000000000000000000000, 0x0000000000780c7ccccccc7600000000,
    0x0000e06060786c666666667c00000000, 0x00000000007cc6c0c0c0c67c00000000,
    0x00001c0c0c3c6ccccccccc7600000000, 0x00000000007cc6fec0c0c67c00000000,
    0x0000386c6460f060606060f000000000, 0x000000000076cccccccccc7c0ccc7800,
    0x0000e060606c7666666666e600000000, 0x00001818003818181818183c00000000,
    0x00000606000e06060606060666663c00, 0x0000e06060666c78786c66e600000000,
    0x00003818181818181818183c00000000, 0x0000000000e6ffdbdbdbdbdb00000000,
    0x0000000000dc66666666666600000000, 0x00000000007cc6c6c6c6c67c00000000,
    0x0000000000dc66666666667c6060f000, 0x000000000076cccccccccc7c0c0c1e00,
    0x0000000000dc7666606060f000000000, 0x00000000007cc660380cc67c00000000,
    0x0000103030fc30303030361c00000000, 0x0000000000cccccccccccc7600000000,
    0x0000000000c3c3c3c3663c1800000000, 0x0000000000c3c3c3dbdbff6600000000,
    0x0000000000c3663c183c66c300000000, 0x0000000000c6c6c6c6c6c67e060cf800,
    0x0000000000fecc183060c6fe00000000, 0x00000e18181870181818180e00000000,
    0x00001818181800181818181800000000, 0x0000701818180e181818187000000000,
    0x000076dc000000000000000000000000, 0x0000000010386cc6c6c6fe0000000000,
    0x00003c66c2c0c0c0c2663c0c067c0000, 0x0000cc0000cccccccccccc7600000000,
    0x000c1830007cc6fec0c0c67c00000000, 0x0010386c00780c7ccccccc7600000000,
    0x0000cc0000780c7ccccccc7600000000, 0x0060301800780c7ccccccc7600000000,
    0x00386c3800780c7ccccccc7600000000, 0x000000003c666060663c0c063c000000,
    0x0010386c007cc6fec0c0c67c00000000, 0x0000c600007cc6fec0c0c67c00000000,
    0x00603018007cc6fec0c0c67c00000000, 0x00006600003818181818183c00000000,
    0x00183c66003818181818183c00000000, 0x00603018003818181818183c00000000,
    0x00c60010386cc6c6fec6c6c600000000, 0x386c3800386cc6c6fec6c6c600000000,
    0x18306000fe66607c606066fe00000000, 0x00000000006e3b1b7ed8dc7700000000,
    0x00003e6cccccfeccccccccce00000000, 0x0010386c007cc6c6c6c6c67c00000000,
    0x0000c600007cc6c6c6c6c67c00000000, 0x00603018007cc6c6c6c6c67c00000000,
    0x003078cc00cccccccccccc7600000000, 0x0060301800cccccccccccc7600000000,
    0x0000c60000c6c6c6c6c6c67e060c7800, 0x00c6007cc6c6c6c6c6c6c67c00000000,
    0x00c600c6c6c6c6c6c6c6c67c00000000, 0x0018187ec3c0c0c0c37e181800000000,
    0x00386c6460f060606060e6fc00000000, 0x0000c3663c18ff18ff18181800000000,
    0x00fc66667c62666f666666f300000000, 0x000e1b1818187e1818181818d8700000,
    0x0018306000780c7ccccccc7600000000, 0x000c1830003818181818183c00000000,
    0x00183060007cc6c6c6c6c67c00000000, 0x0018306000cccccccccccc7600000000,
    0x000076dc00dc66666666666600000000, 0x76dc00c6e6f6fedecec6c6c600000000,
    0x003c6c6c3e007e000000000000000000, 0x00386c6c38007c000000000000000000,
    0x0000303000303060c0c6c67c00000000, 0x000000000000fec0c0c0c00000000000,
    0x000000000000fe060606060000000000, 0x00c0c0c2c6cc183060ce9b060c1f0000,
    0x00c0c0c2c6cc183066ce963e06060000, 0x00001818001818183c3c3c1800000000,
    0x0000000000366cd86c36000000000000, 0x0000000000d86c366cd8000000000000,
    0x11441144114411441144114411441144, 0x55aa55aa55aa55aa55aa55aa55aa55aa,
    0xdd77dd77dd77dd77dd77dd77dd77dd77, 0x18181818181818181818181818181818,
    0x18181818181818f81818181818181818, 0x1818181818f818f81818181818181818,
    0x36363636363636f63636363636363636, 0x00000000000000fe3636363636363636,
    0x0000000000f818f81818181818181818, 0x3636363636f606f63636363636363636,
    0x36363636363636363636363636363636, 0x0000000000fe06f63636363636363636,
    0x3636363636f606fe0000000000000000, 0x36363636363636fe0000000000000000,
    0x1818181818f818f80000000000000000, 0x00000000000000f81818181818181818,
    0x181818181818181f0000000000000000, 0x18181818181818ff0000000000000000,
    0x00000000000000ff1818181818181818, 0x181818181818181f1818181818181818,
    0x00000000000000ff0000000000000000, 0x18181818181818ff1818181818181818,
    0x18181818181f181f1818181818181818, 0x36363636363636373636363636363636,
    0x363636363637303f0000000000000000, 0x00000000003f30373636363636363636,
    0x3636363636f700ff0000000000000000, 0x0000000000ff00f73636363636363636,
    0x36363636363730373636363636363636, 0x0000000000ff00ff0000000000000000,
    0x3636363636f700f73636363636363636, 0x1818181818ff00ff0000000000000000,
    0x36363636363636ff0000000000000000, 0x0000000000ff00ff1818181818181818,
    0x00000000000000ff3636363636363636, 0x363636363636363f0000000000000000,
    0x18181818181f181f0000000000000000, 0x00000000001f181f1818181818181818,
    0x000000000000003f3636363636363636, 0x36363636363636ff3636363636363636,
    0x1818181818ff18ff1818181818181818, 0x18181818181818f80000000000000000,
    0x000000000000001f1818181818181818, 0xffffffffffffffffffffffffffffffff,
    0x00000000000000ffffffffffffffffff, 0xf0f0f0f0f0f0f0f0f0f0f0f0f0f0f0f0,
    0x0f0f0f0f0f0f0f0f0f0f0f0f0f0f0f0f, 0xffffffffffffff000000000000000000,
    0x000000000076dcd8d8d8dc7600000000, 0x000078ccccccd8ccc6c6c6cc00000000,
    0x0000fec6c6c0c0c0c0c0c0c000000000, 0x00000000fe6c6c6c6c6c6c6c00000000,
    0x000000fec66030183060c6fe00000000, 0x00000000007ed8d8d8d8d87000000000,
    0x0000000066666666667c6060c0000000, 0x0000000076dc18181818181800000000,
    0x0000007e183c6666663c187e00000000, 0x000000386cc6c6fec6c66c3800000000,
    0x0000386cc6c6c66c6c6c6cee00000000, 0x00001e30180c3e666666663c00000000,
    0x00000000007edbdbdb7e000000000000, 0x00000003067edbdbf37e60c000000000,
    0x00001c3060607c606060301c00000000, 0x0000007cc6c6c6c6c6c6c6c600000000,
    0x00000000fe0000fe0000fe0000000000, 0x0000000018187e18180000ff00000000,
    0x00000030180c060c1830007e00000000, 0x0000000c18306030180c007e00000000,
    0x00000e1b1b1818181818181818181818, 0x1818181818181818d8d8d87000000000,
    0x000000001818007e0018180000000000, 0x000000000076dc0076dc000000000000,
    0x00386c6c380000000000000000000000, 0x00000000000000181800000000000000,
    0x00000000000000001800000000000000, 0x000f0c0c0c0c0cec6c6c3c1c00000000,
    0x00d86c6c6c6c6c000000000000000000, 0x0070d83060c8f8000000000000000000,
    0x000000007c7c7c7c7c7c7c0000000000, 0x00000000000000000000000000000000]

/-- `&table[c * height]` as the list of the glyph's rows. -/
def glyphRows (table : List Nat) (height : Nat) (c : BitVec 8) : List (BitVec 8) :=
  (List.range height).map fun row =>
    BitVec.ofNat 8 (table.getD c.toNat 0 / 2 ^ (8 * (height - 1 - row)))

def vgafont8 (c : BitVec 8) : List (BitVec 8) := glyphRows vgafont8Table 8 c
def vgafont14 (c : BitVec 8) : List (BitVec 8) := glyphRows vgafont14Table 14 c
def vgafont16 (c : BitVec 8) : List (BitVec 8) := glyphRows vgafont16Table 16 c

theorem glyphRows_length (table : List Nat) (height : Nat) (c : BitVec 8) :
    (glyphRows table height c).length = height := by
  rw [glyphRows, List.length_map, List.length_range]

end Flosp.Kernel
