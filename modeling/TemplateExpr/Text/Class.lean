import TemplateExpr.Text.CodeTable

/-!
# Character classes

The classes that the rules of the library ask about. Each is total over all characters: ASCII is
decided by the class and everything else is looked up in a table of `Text.Property`.
-/

/-!
## Properties beyond ASCII

One table for each property that a rule of the library asks about. The tables start at U+0080; the
ASCII part of each property is written out where its class is defined.
-/

namespace TemplateExpr.Text.Property

/-- Letters that may start a name. -/
def identifierStart : CodeTable := CodeTable.ofBounds
  [(0xAA, 0xAA), (0xB5, 0xB5), (0xBA, 0xBA), (0xC0, 0xD6), (0xD8, 0xF6), (0xF8, 0x2C1),
   (0x2C6, 0x2D1), (0x2E0, 0x2E4), (0x2EC, 0x2EC), (0x2EE, 0x2EE), (0x370, 0x374), (0x376, 0x377),
   (0x37B, 0x37D), (0x37F, 0x37F), (0x386, 0x386), (0x388, 0x38A), (0x38C, 0x38C), (0x38E, 0x3A1),
   (0x3A3, 0x3F5), (0x3F7, 0x481), (0x48A, 0x52F), (0x531, 0x556), (0x559, 0x559), (0x560, 0x588),
   (0x5D0, 0x5EA), (0x5EF, 0x5F2), (0x620, 0x64A), (0x66E, 0x66F), (0x671, 0x6D3), (0x6D5, 0x6D5),
   (0x6E5, 0x6E6), (0x6EE, 0x6EF), (0x6FA, 0x6FC), (0x6FF, 0x6FF), (0x710, 0x710), (0x712, 0x72F),
   (0x74D, 0x7A5), (0x7B1, 0x7B1), (0x7CA, 0x7EA), (0x7F4, 0x7F5), (0x7FA, 0x7FA), (0x800, 0x815),
   (0x81A, 0x81A), (0x824, 0x824), (0x828, 0x828), (0x840, 0x858), (0x860, 0x86A), (0x870, 0x887),
   (0x889, 0x88E), (0x8A0, 0x8C9), (0x904, 0x939), (0x93D, 0x93D), (0x950, 0x950), (0x958, 0x961),
   (0x971, 0x980), (0x985, 0x98C), (0x98F, 0x990), (0x993, 0x9A8), (0x9AA, 0x9B0), (0x9B2, 0x9B2),
   (0x9B6, 0x9B9), (0x9BD, 0x9BD), (0x9CE, 0x9CE), (0x9DC, 0x9DD), (0x9DF, 0x9E1), (0x9F0, 0x9F1),
   (0x9FC, 0x9FC), (0xA05, 0xA0A), (0xA0F, 0xA10), (0xA13, 0xA28), (0xA2A, 0xA30), (0xA32, 0xA33),
   (0xA35, 0xA36), (0xA38, 0xA39), (0xA59, 0xA5C), (0xA5E, 0xA5E), (0xA72, 0xA74), (0xA85, 0xA8D),
   (0xA8F, 0xA91), (0xA93, 0xAA8), (0xAAA, 0xAB0), (0xAB2, 0xAB3), (0xAB5, 0xAB9), (0xABD, 0xABD),
   (0xAD0, 0xAD0), (0xAE0, 0xAE1), (0xAF9, 0xAF9), (0xB05, 0xB0C), (0xB0F, 0xB10), (0xB13, 0xB28),
   (0xB2A, 0xB30), (0xB32, 0xB33), (0xB35, 0xB39), (0xB3D, 0xB3D), (0xB5C, 0xB5D), (0xB5F, 0xB61),
   (0xB71, 0xB71), (0xB83, 0xB83), (0xB85, 0xB8A), (0xB8E, 0xB90), (0xB92, 0xB95), (0xB99, 0xB9A),
   (0xB9C, 0xB9C), (0xB9E, 0xB9F), (0xBA3, 0xBA4), (0xBA8, 0xBAA), (0xBAE, 0xBB9), (0xBD0, 0xBD0),
   (0xC05, 0xC0C), (0xC0E, 0xC10), (0xC12, 0xC28), (0xC2A, 0xC39), (0xC3D, 0xC3D), (0xC58, 0xC5A),
   (0xC5D, 0xC5D), (0xC60, 0xC61), (0xC80, 0xC80), (0xC85, 0xC8C), (0xC8E, 0xC90), (0xC92, 0xCA8),
   (0xCAA, 0xCB3), (0xCB5, 0xCB9), (0xCBD, 0xCBD), (0xCDD, 0xCDE), (0xCE0, 0xCE1), (0xCF1, 0xCF2),
   (0xD04, 0xD0C), (0xD0E, 0xD10), (0xD12, 0xD3A), (0xD3D, 0xD3D), (0xD4E, 0xD4E), (0xD54, 0xD56),
   (0xD5F, 0xD61), (0xD7A, 0xD7F), (0xD85, 0xD96), (0xD9A, 0xDB1), (0xDB3, 0xDBB), (0xDBD, 0xDBD),
   (0xDC0, 0xDC6), (0xE01, 0xE30), (0xE32, 0xE32), (0xE40, 0xE46), (0xE81, 0xE82), (0xE84, 0xE84),
   (0xE86, 0xE8A), (0xE8C, 0xEA3), (0xEA5, 0xEA5), (0xEA7, 0xEB0), (0xEB2, 0xEB2), (0xEBD, 0xEBD),
   (0xEC0, 0xEC4), (0xEC6, 0xEC6), (0xEDC, 0xEDF), (0xF00, 0xF00), (0xF40, 0xF47), (0xF49, 0xF6C),
   (0xF88, 0xF8C), (0x1000, 0x102A), (0x103F, 0x103F), (0x1050, 0x1055), (0x105A, 0x105D),
   (0x1061, 0x1061), (0x1065, 0x1066), (0x106E, 0x1070), (0x1075, 0x1081), (0x108E, 0x108E),
   (0x10A0, 0x10C5), (0x10C7, 0x10C7), (0x10CD, 0x10CD), (0x10D0, 0x10FA), (0x10FC, 0x1248),
   (0x124A, 0x124D), (0x1250, 0x1256), (0x1258, 0x1258), (0x125A, 0x125D), (0x1260, 0x1288),
   (0x128A, 0x128D), (0x1290, 0x12B0), (0x12B2, 0x12B5), (0x12B8, 0x12BE), (0x12C0, 0x12C0),
   (0x12C2, 0x12C5), (0x12C8, 0x12D6), (0x12D8, 0x1310), (0x1312, 0x1315), (0x1318, 0x135A),
   (0x1380, 0x138F), (0x13A0, 0x13F5), (0x13F8, 0x13FD), (0x1401, 0x166C), (0x166F, 0x167F),
   (0x1681, 0x169A), (0x16A0, 0x16EA), (0x16EE, 0x16F8), (0x1700, 0x1711), (0x171F, 0x1731),
   (0x1740, 0x1751), (0x1760, 0x176C), (0x176E, 0x1770), (0x1780, 0x17B3), (0x17D7, 0x17D7),
   (0x17DC, 0x17DC), (0x1820, 0x1878), (0x1880, 0x18A8), (0x18AA, 0x18AA), (0x18B0, 0x18F5),
   (0x1900, 0x191E), (0x1950, 0x196D), (0x1970, 0x1974), (0x1980, 0x19AB), (0x19B0, 0x19C9),
   (0x1A00, 0x1A16), (0x1A20, 0x1A54), (0x1AA7, 0x1AA7), (0x1B05, 0x1B33), (0x1B45, 0x1B4C),
   (0x1B83, 0x1BA0), (0x1BAE, 0x1BAF), (0x1BBA, 0x1BE5), (0x1C00, 0x1C23), (0x1C4D, 0x1C4F),
   (0x1C5A, 0x1C7D), (0x1C80, 0x1C8A), (0x1C90, 0x1CBA), (0x1CBD, 0x1CBF), (0x1CE9, 0x1CEC),
   (0x1CEE, 0x1CF3), (0x1CF5, 0x1CF6), (0x1CFA, 0x1CFA), (0x1D00, 0x1DBF), (0x1E00, 0x1F15),
   (0x1F18, 0x1F1D), (0x1F20, 0x1F45), (0x1F48, 0x1F4D), (0x1F50, 0x1F57), (0x1F59, 0x1F59),
   (0x1F5B, 0x1F5B), (0x1F5D, 0x1F5D), (0x1F5F, 0x1F7D), (0x1F80, 0x1FB4), (0x1FB6, 0x1FBC),
   (0x1FBE, 0x1FBE), (0x1FC2, 0x1FC4), (0x1FC6, 0x1FCC), (0x1FD0, 0x1FD3), (0x1FD6, 0x1FDB),
   (0x1FE0, 0x1FEC), (0x1FF2, 0x1FF4), (0x1FF6, 0x1FFC), (0x2071, 0x2071), (0x207F, 0x207F),
   (0x2090, 0x209C), (0x2102, 0x2102), (0x2107, 0x2107), (0x210A, 0x2113), (0x2115, 0x2115),
   (0x2118, 0x211D), (0x2124, 0x2124), (0x2126, 0x2126), (0x2128, 0x2128), (0x212A, 0x2139),
   (0x213C, 0x213F), (0x2145, 0x2149), (0x214E, 0x214E), (0x2160, 0x2188), (0x2C00, 0x2CE4),
   (0x2CEB, 0x2CEE), (0x2CF2, 0x2CF3), (0x2D00, 0x2D25), (0x2D27, 0x2D27), (0x2D2D, 0x2D2D),
   (0x2D30, 0x2D67), (0x2D6F, 0x2D6F), (0x2D80, 0x2D96), (0x2DA0, 0x2DA6), (0x2DA8, 0x2DAE),
   (0x2DB0, 0x2DB6), (0x2DB8, 0x2DBE), (0x2DC0, 0x2DC6), (0x2DC8, 0x2DCE), (0x2DD0, 0x2DD6),
   (0x2DD8, 0x2DDE), (0x3005, 0x3007), (0x3021, 0x3029), (0x3031, 0x3035), (0x3038, 0x303C),
   (0x3041, 0x3096), (0x309D, 0x309F), (0x30A1, 0x30FA), (0x30FC, 0x30FF), (0x3105, 0x312F),
   (0x3131, 0x318E), (0x31A0, 0x31BF), (0x31F0, 0x31FF), (0x3400, 0x4DBF), (0x4E00, 0xA48C),
   (0xA4D0, 0xA4FD), (0xA500, 0xA60C), (0xA610, 0xA61F), (0xA62A, 0xA62B), (0xA640, 0xA66E),
   (0xA67F, 0xA69D), (0xA6A0, 0xA6EF), (0xA717, 0xA71F), (0xA722, 0xA788), (0xA78B, 0xA7CD),
   (0xA7D0, 0xA7D1), (0xA7D3, 0xA7D3), (0xA7D5, 0xA7DC), (0xA7F2, 0xA801), (0xA803, 0xA805),
   (0xA807, 0xA80A), (0xA80C, 0xA822), (0xA840, 0xA873), (0xA882, 0xA8B3), (0xA8F2, 0xA8F7),
   (0xA8FB, 0xA8FB), (0xA8FD, 0xA8FE), (0xA90A, 0xA925), (0xA930, 0xA946), (0xA960, 0xA97C),
   (0xA984, 0xA9B2), (0xA9CF, 0xA9CF), (0xA9E0, 0xA9E4), (0xA9E6, 0xA9EF), (0xA9FA, 0xA9FE),
   (0xAA00, 0xAA28), (0xAA40, 0xAA42), (0xAA44, 0xAA4B), (0xAA60, 0xAA76), (0xAA7A, 0xAA7A),
   (0xAA7E, 0xAAAF), (0xAAB1, 0xAAB1), (0xAAB5, 0xAAB6), (0xAAB9, 0xAABD), (0xAAC0, 0xAAC0),
   (0xAAC2, 0xAAC2), (0xAADB, 0xAADD), (0xAAE0, 0xAAEA), (0xAAF2, 0xAAF4), (0xAB01, 0xAB06),
   (0xAB09, 0xAB0E), (0xAB11, 0xAB16), (0xAB20, 0xAB26), (0xAB28, 0xAB2E), (0xAB30, 0xAB5A),
   (0xAB5C, 0xAB69), (0xAB70, 0xABE2), (0xAC00, 0xD7A3), (0xD7B0, 0xD7C6), (0xD7CB, 0xD7FB),
   (0xF900, 0xFA6D), (0xFA70, 0xFAD9), (0xFB00, 0xFB06), (0xFB13, 0xFB17), (0xFB1D, 0xFB1D),
   (0xFB1F, 0xFB28), (0xFB2A, 0xFB36), (0xFB38, 0xFB3C), (0xFB3E, 0xFB3E), (0xFB40, 0xFB41),
   (0xFB43, 0xFB44), (0xFB46, 0xFBB1), (0xFBD3, 0xFC5D), (0xFC64, 0xFD3D), (0xFD50, 0xFD8F),
   (0xFD92, 0xFDC7), (0xFDF0, 0xFDF9), (0xFE71, 0xFE71), (0xFE73, 0xFE73), (0xFE77, 0xFE77),
   (0xFE79, 0xFE79), (0xFE7B, 0xFE7B), (0xFE7D, 0xFE7D), (0xFE7F, 0xFEFC), (0xFF21, 0xFF3A),
   (0xFF41, 0xFF5A), (0xFF66, 0xFF9D), (0xFFA0, 0xFFBE), (0xFFC2, 0xFFC7), (0xFFCA, 0xFFCF),
   (0xFFD2, 0xFFD7), (0xFFDA, 0xFFDC), (0x10000, 0x1000B), (0x1000D, 0x10026), (0x10028, 0x1003A),
   (0x1003C, 0x1003D), (0x1003F, 0x1004D), (0x10050, 0x1005D), (0x10080, 0x100FA),
   (0x10140, 0x10174), (0x10280, 0x1029C), (0x102A0, 0x102D0), (0x10300, 0x1031F),
   (0x1032D, 0x1034A), (0x10350, 0x10375), (0x10380, 0x1039D), (0x103A0, 0x103C3),
   (0x103C8, 0x103CF), (0x103D1, 0x103D5), (0x10400, 0x1049D), (0x104B0, 0x104D3),
   (0x104D8, 0x104FB), (0x10500, 0x10527), (0x10530, 0x10563), (0x10570, 0x1057A),
   (0x1057C, 0x1058A), (0x1058C, 0x10592), (0x10594, 0x10595), (0x10597, 0x105A1),
   (0x105A3, 0x105B1), (0x105B3, 0x105B9), (0x105BB, 0x105BC), (0x105C0, 0x105F3),
   (0x10600, 0x10736), (0x10740, 0x10755), (0x10760, 0x10767), (0x10780, 0x10785),
   (0x10787, 0x107B0), (0x107B2, 0x107BA), (0x10800, 0x10805), (0x10808, 0x10808),
   (0x1080A, 0x10835), (0x10837, 0x10838), (0x1083C, 0x1083C), (0x1083F, 0x10855),
   (0x10860, 0x10876), (0x10880, 0x1089E), (0x108E0, 0x108F2), (0x108F4, 0x108F5),
   (0x10900, 0x10915), (0x10920, 0x10939), (0x10980, 0x109B7), (0x109BE, 0x109BF),
   (0x10A00, 0x10A00), (0x10A10, 0x10A13), (0x10A15, 0x10A17), (0x10A19, 0x10A35),
   (0x10A60, 0x10A7C), (0x10A80, 0x10A9C), (0x10AC0, 0x10AC7), (0x10AC9, 0x10AE4),
   (0x10B00, 0x10B35), (0x10B40, 0x10B55), (0x10B60, 0x10B72), (0x10B80, 0x10B91),
   (0x10C00, 0x10C48), (0x10C80, 0x10CB2), (0x10CC0, 0x10CF2), (0x10D00, 0x10D23),
   (0x10D4A, 0x10D65), (0x10D6F, 0x10D85), (0x10E80, 0x10EA9), (0x10EB0, 0x10EB1),
   (0x10EC2, 0x10EC4), (0x10F00, 0x10F1C), (0x10F27, 0x10F27), (0x10F30, 0x10F45),
   (0x10F70, 0x10F81), (0x10FB0, 0x10FC4), (0x10FE0, 0x10FF6), (0x11003, 0x11037),
   (0x11071, 0x11072), (0x11075, 0x11075), (0x11083, 0x110AF), (0x110D0, 0x110E8),
   (0x11103, 0x11126), (0x11144, 0x11144), (0x11147, 0x11147), (0x11150, 0x11172),
   (0x11176, 0x11176), (0x11183, 0x111B2), (0x111C1, 0x111C4), (0x111DA, 0x111DA),
   (0x111DC, 0x111DC), (0x11200, 0x11211), (0x11213, 0x1122B), (0x1123F, 0x11240),
   (0x11280, 0x11286), (0x11288, 0x11288), (0x1128A, 0x1128D), (0x1128F, 0x1129D),
   (0x1129F, 0x112A8), (0x112B0, 0x112DE), (0x11305, 0x1130C), (0x1130F, 0x11310),
   (0x11313, 0x11328), (0x1132A, 0x11330), (0x11332, 0x11333), (0x11335, 0x11339),
   (0x1133D, 0x1133D), (0x11350, 0x11350), (0x1135D, 0x11361), (0x11380, 0x11389),
   (0x1138B, 0x1138B), (0x1138E, 0x1138E), (0x11390, 0x113B5), (0x113B7, 0x113B7),
   (0x113D1, 0x113D1), (0x113D3, 0x113D3), (0x11400, 0x11434), (0x11447, 0x1144A),
   (0x1145F, 0x11461), (0x11480, 0x114AF), (0x114C4, 0x114C5), (0x114C7, 0x114C7),
   (0x11580, 0x115AE), (0x115D8, 0x115DB), (0x11600, 0x1162F), (0x11644, 0x11644),
   (0x11680, 0x116AA), (0x116B8, 0x116B8), (0x11700, 0x1171A), (0x11740, 0x11746),
   (0x11800, 0x1182B), (0x118A0, 0x118DF), (0x118FF, 0x11906), (0x11909, 0x11909),
   (0x1190C, 0x11913), (0x11915, 0x11916), (0x11918, 0x1192F), (0x1193F, 0x1193F),
   (0x11941, 0x11941), (0x119A0, 0x119A7), (0x119AA, 0x119D0), (0x119E1, 0x119E1),
   (0x119E3, 0x119E3), (0x11A00, 0x11A00), (0x11A0B, 0x11A32), (0x11A3A, 0x11A3A),
   (0x11A50, 0x11A50), (0x11A5C, 0x11A89), (0x11A9D, 0x11A9D), (0x11AB0, 0x11AF8),
   (0x11BC0, 0x11BE0), (0x11C00, 0x11C08), (0x11C0A, 0x11C2E), (0x11C40, 0x11C40),
   (0x11C72, 0x11C8F), (0x11D00, 0x11D06), (0x11D08, 0x11D09), (0x11D0B, 0x11D30),
   (0x11D46, 0x11D46), (0x11D60, 0x11D65), (0x11D67, 0x11D68), (0x11D6A, 0x11D89),
   (0x11D98, 0x11D98), (0x11EE0, 0x11EF2), (0x11F02, 0x11F02), (0x11F04, 0x11F10),
   (0x11F12, 0x11F33), (0x11FB0, 0x11FB0), (0x12000, 0x12399), (0x12400, 0x1246E),
   (0x12480, 0x12543), (0x12F90, 0x12FF0), (0x13000, 0x1342F), (0x13441, 0x13446),
   (0x13460, 0x143FA), (0x14400, 0x14646), (0x16100, 0x1611D), (0x16800, 0x16A38),
   (0x16A40, 0x16A5E), (0x16A70, 0x16ABE), (0x16AD0, 0x16AED), (0x16B00, 0x16B2F),
   (0x16B40, 0x16B43), (0x16B63, 0x16B77), (0x16B7D, 0x16B8F), (0x16D40, 0x16D6C),
   (0x16E40, 0x16E7F), (0x16F00, 0x16F4A), (0x16F50, 0x16F50), (0x16F93, 0x16F9F),
   (0x16FE0, 0x16FE1), (0x16FE3, 0x16FE3), (0x17000, 0x187F7), (0x18800, 0x18CD5),
   (0x18CFF, 0x18D08), (0x1AFF0, 0x1AFF3), (0x1AFF5, 0x1AFFB), (0x1AFFD, 0x1AFFE),
   (0x1B000, 0x1B122), (0x1B132, 0x1B132), (0x1B150, 0x1B152), (0x1B155, 0x1B155),
   (0x1B164, 0x1B167), (0x1B170, 0x1B2FB), (0x1BC00, 0x1BC6A), (0x1BC70, 0x1BC7C),
   (0x1BC80, 0x1BC88), (0x1BC90, 0x1BC99), (0x1D400, 0x1D454), (0x1D456, 0x1D49C),
   (0x1D49E, 0x1D49F), (0x1D4A2, 0x1D4A2), (0x1D4A5, 0x1D4A6), (0x1D4A9, 0x1D4AC),
   (0x1D4AE, 0x1D4B9), (0x1D4BB, 0x1D4BB), (0x1D4BD, 0x1D4C3), (0x1D4C5, 0x1D505),
   (0x1D507, 0x1D50A), (0x1D50D, 0x1D514), (0x1D516, 0x1D51C), (0x1D51E, 0x1D539),
   (0x1D53B, 0x1D53E), (0x1D540, 0x1D544), (0x1D546, 0x1D546), (0x1D54A, 0x1D550),
   (0x1D552, 0x1D6A5), (0x1D6A8, 0x1D6C0), (0x1D6C2, 0x1D6DA), (0x1D6DC, 0x1D6FA),
   (0x1D6FC, 0x1D714), (0x1D716, 0x1D734), (0x1D736, 0x1D74E), (0x1D750, 0x1D76E),
   (0x1D770, 0x1D788), (0x1D78A, 0x1D7A8), (0x1D7AA, 0x1D7C2), (0x1D7C4, 0x1D7CB),
   (0x1DF00, 0x1DF1E), (0x1DF25, 0x1DF2A), (0x1E030, 0x1E06D), (0x1E100, 0x1E12C),
   (0x1E137, 0x1E13D), (0x1E14E, 0x1E14E), (0x1E290, 0x1E2AD), (0x1E2C0, 0x1E2EB),
   (0x1E4D0, 0x1E4EB), (0x1E5D0, 0x1E5ED), (0x1E5F0, 0x1E5F0), (0x1E7E0, 0x1E7E6),
   (0x1E7E8, 0x1E7EB), (0x1E7ED, 0x1E7EE), (0x1E7F0, 0x1E7FE), (0x1E800, 0x1E8C4),
   (0x1E900, 0x1E943), (0x1E94B, 0x1E94B), (0x1EE00, 0x1EE03), (0x1EE05, 0x1EE1F),
   (0x1EE21, 0x1EE22), (0x1EE24, 0x1EE24), (0x1EE27, 0x1EE27), (0x1EE29, 0x1EE32),
   (0x1EE34, 0x1EE37), (0x1EE39, 0x1EE39), (0x1EE3B, 0x1EE3B), (0x1EE42, 0x1EE42),
   (0x1EE47, 0x1EE47), (0x1EE49, 0x1EE49), (0x1EE4B, 0x1EE4B), (0x1EE4D, 0x1EE4F),
   (0x1EE51, 0x1EE52), (0x1EE54, 0x1EE54), (0x1EE57, 0x1EE57), (0x1EE59, 0x1EE59),
   (0x1EE5B, 0x1EE5B), (0x1EE5D, 0x1EE5D), (0x1EE5F, 0x1EE5F), (0x1EE61, 0x1EE62),
   (0x1EE64, 0x1EE64), (0x1EE67, 0x1EE6A), (0x1EE6C, 0x1EE72), (0x1EE74, 0x1EE77),
   (0x1EE79, 0x1EE7C), (0x1EE7E, 0x1EE7E), (0x1EE80, 0x1EE89), (0x1EE8B, 0x1EE9B),
   (0x1EEA1, 0x1EEA3), (0x1EEA5, 0x1EEA9), (0x1EEAB, 0x1EEBB), (0x20000, 0x2A6DF),
   (0x2A700, 0x2B739), (0x2B740, 0x2B81D), (0x2B820, 0x2CEA1), (0x2CEB0, 0x2EBE0),
   (0x2EBF0, 0x2EE5D), (0x2F800, 0x2FA1D), (0x30000, 0x3134A), (0x31350, 0x323AF)]

/-- Characters that may continue a name. -/
def identifierContinue : CodeTable := CodeTable.ofBounds
  [(0xAA, 0xAA), (0xB5, 0xB5), (0xB7, 0xB7), (0xBA, 0xBA), (0xC0, 0xD6), (0xD8, 0xF6),
   (0xF8, 0x2C1), (0x2C6, 0x2D1), (0x2E0, 0x2E4), (0x2EC, 0x2EC), (0x2EE, 0x2EE), (0x300, 0x374),
   (0x376, 0x377), (0x37B, 0x37D), (0x37F, 0x37F), (0x386, 0x38A), (0x38C, 0x38C), (0x38E, 0x3A1),
   (0x3A3, 0x3F5), (0x3F7, 0x481), (0x483, 0x487), (0x48A, 0x52F), (0x531, 0x556), (0x559, 0x559),
   (0x560, 0x588), (0x591, 0x5BD), (0x5BF, 0x5BF), (0x5C1, 0x5C2), (0x5C4, 0x5C5), (0x5C7, 0x5C7),
   (0x5D0, 0x5EA), (0x5EF, 0x5F2), (0x610, 0x61A), (0x620, 0x669), (0x66E, 0x6D3), (0x6D5, 0x6DC),
   (0x6DF, 0x6E8), (0x6EA, 0x6FC), (0x6FF, 0x6FF), (0x710, 0x74A), (0x74D, 0x7B1), (0x7C0, 0x7F5),
   (0x7FA, 0x7FA), (0x7FD, 0x7FD), (0x800, 0x82D), (0x840, 0x85B), (0x860, 0x86A), (0x870, 0x887),
   (0x889, 0x88E), (0x897, 0x8E1), (0x8E3, 0x963), (0x966, 0x96F), (0x971, 0x983), (0x985, 0x98C),
   (0x98F, 0x990), (0x993, 0x9A8), (0x9AA, 0x9B0), (0x9B2, 0x9B2), (0x9B6, 0x9B9), (0x9BC, 0x9C4),
   (0x9C7, 0x9C8), (0x9CB, 0x9CE), (0x9D7, 0x9D7), (0x9DC, 0x9DD), (0x9DF, 0x9E3), (0x9E6, 0x9F1),
   (0x9FC, 0x9FC), (0x9FE, 0x9FE), (0xA01, 0xA03), (0xA05, 0xA0A), (0xA0F, 0xA10), (0xA13, 0xA28),
   (0xA2A, 0xA30), (0xA32, 0xA33), (0xA35, 0xA36), (0xA38, 0xA39), (0xA3C, 0xA3C), (0xA3E, 0xA42),
   (0xA47, 0xA48), (0xA4B, 0xA4D), (0xA51, 0xA51), (0xA59, 0xA5C), (0xA5E, 0xA5E), (0xA66, 0xA75),
   (0xA81, 0xA83), (0xA85, 0xA8D), (0xA8F, 0xA91), (0xA93, 0xAA8), (0xAAA, 0xAB0), (0xAB2, 0xAB3),
   (0xAB5, 0xAB9), (0xABC, 0xAC5), (0xAC7, 0xAC9), (0xACB, 0xACD), (0xAD0, 0xAD0), (0xAE0, 0xAE3),
   (0xAE6, 0xAEF), (0xAF9, 0xAFF), (0xB01, 0xB03), (0xB05, 0xB0C), (0xB0F, 0xB10), (0xB13, 0xB28),
   (0xB2A, 0xB30), (0xB32, 0xB33), (0xB35, 0xB39), (0xB3C, 0xB44), (0xB47, 0xB48), (0xB4B, 0xB4D),
   (0xB55, 0xB57), (0xB5C, 0xB5D), (0xB5F, 0xB63), (0xB66, 0xB6F), (0xB71, 0xB71), (0xB82, 0xB83),
   (0xB85, 0xB8A), (0xB8E, 0xB90), (0xB92, 0xB95), (0xB99, 0xB9A), (0xB9C, 0xB9C), (0xB9E, 0xB9F),
   (0xBA3, 0xBA4), (0xBA8, 0xBAA), (0xBAE, 0xBB9), (0xBBE, 0xBC2), (0xBC6, 0xBC8), (0xBCA, 0xBCD),
   (0xBD0, 0xBD0), (0xBD7, 0xBD7), (0xBE6, 0xBEF), (0xC00, 0xC0C), (0xC0E, 0xC10), (0xC12, 0xC28),
   (0xC2A, 0xC39), (0xC3C, 0xC44), (0xC46, 0xC48), (0xC4A, 0xC4D), (0xC55, 0xC56), (0xC58, 0xC5A),
   (0xC5D, 0xC5D), (0xC60, 0xC63), (0xC66, 0xC6F), (0xC80, 0xC83), (0xC85, 0xC8C), (0xC8E, 0xC90),
   (0xC92, 0xCA8), (0xCAA, 0xCB3), (0xCB5, 0xCB9), (0xCBC, 0xCC4), (0xCC6, 0xCC8), (0xCCA, 0xCCD),
   (0xCD5, 0xCD6), (0xCDD, 0xCDE), (0xCE0, 0xCE3), (0xCE6, 0xCEF), (0xCF1, 0xCF3), (0xD00, 0xD0C),
   (0xD0E, 0xD10), (0xD12, 0xD44), (0xD46, 0xD48), (0xD4A, 0xD4E), (0xD54, 0xD57), (0xD5F, 0xD63),
   (0xD66, 0xD6F), (0xD7A, 0xD7F), (0xD81, 0xD83), (0xD85, 0xD96), (0xD9A, 0xDB1), (0xDB3, 0xDBB),
   (0xDBD, 0xDBD), (0xDC0, 0xDC6), (0xDCA, 0xDCA), (0xDCF, 0xDD4), (0xDD6, 0xDD6), (0xDD8, 0xDDF),
   (0xDE6, 0xDEF), (0xDF2, 0xDF3), (0xE01, 0xE3A), (0xE40, 0xE4E), (0xE50, 0xE59), (0xE81, 0xE82),
   (0xE84, 0xE84), (0xE86, 0xE8A), (0xE8C, 0xEA3), (0xEA5, 0xEA5), (0xEA7, 0xEBD), (0xEC0, 0xEC4),
   (0xEC6, 0xEC6), (0xEC8, 0xECE), (0xED0, 0xED9), (0xEDC, 0xEDF), (0xF00, 0xF00), (0xF18, 0xF19),
   (0xF20, 0xF29), (0xF35, 0xF35), (0xF37, 0xF37), (0xF39, 0xF39), (0xF3E, 0xF47), (0xF49, 0xF6C),
   (0xF71, 0xF84), (0xF86, 0xF97), (0xF99, 0xFBC), (0xFC6, 0xFC6), (0x1000, 0x1049),
   (0x1050, 0x109D), (0x10A0, 0x10C5), (0x10C7, 0x10C7), (0x10CD, 0x10CD), (0x10D0, 0x10FA),
   (0x10FC, 0x1248), (0x124A, 0x124D), (0x1250, 0x1256), (0x1258, 0x1258), (0x125A, 0x125D),
   (0x1260, 0x1288), (0x128A, 0x128D), (0x1290, 0x12B0), (0x12B2, 0x12B5), (0x12B8, 0x12BE),
   (0x12C0, 0x12C0), (0x12C2, 0x12C5), (0x12C8, 0x12D6), (0x12D8, 0x1310), (0x1312, 0x1315),
   (0x1318, 0x135A), (0x135D, 0x135F), (0x1369, 0x1371), (0x1380, 0x138F), (0x13A0, 0x13F5),
   (0x13F8, 0x13FD), (0x1401, 0x166C), (0x166F, 0x167F), (0x1681, 0x169A), (0x16A0, 0x16EA),
   (0x16EE, 0x16F8), (0x1700, 0x1715), (0x171F, 0x1734), (0x1740, 0x1753), (0x1760, 0x176C),
   (0x176E, 0x1770), (0x1772, 0x1773), (0x1780, 0x17D3), (0x17D7, 0x17D7), (0x17DC, 0x17DD),
   (0x17E0, 0x17E9), (0x180B, 0x180D), (0x180F, 0x1819), (0x1820, 0x1878), (0x1880, 0x18AA),
   (0x18B0, 0x18F5), (0x1900, 0x191E), (0x1920, 0x192B), (0x1930, 0x193B), (0x1946, 0x196D),
   (0x1970, 0x1974), (0x1980, 0x19AB), (0x19B0, 0x19C9), (0x19D0, 0x19DA), (0x1A00, 0x1A1B),
   (0x1A20, 0x1A5E), (0x1A60, 0x1A7C), (0x1A7F, 0x1A89), (0x1A90, 0x1A99), (0x1AA7, 0x1AA7),
   (0x1AB0, 0x1ABD), (0x1ABF, 0x1ACE), (0x1B00, 0x1B4C), (0x1B50, 0x1B59), (0x1B6B, 0x1B73),
   (0x1B80, 0x1BF3), (0x1C00, 0x1C37), (0x1C40, 0x1C49), (0x1C4D, 0x1C7D), (0x1C80, 0x1C8A),
   (0x1C90, 0x1CBA), (0x1CBD, 0x1CBF), (0x1CD0, 0x1CD2), (0x1CD4, 0x1CFA), (0x1D00, 0x1F15),
   (0x1F18, 0x1F1D), (0x1F20, 0x1F45), (0x1F48, 0x1F4D), (0x1F50, 0x1F57), (0x1F59, 0x1F59),
   (0x1F5B, 0x1F5B), (0x1F5D, 0x1F5D), (0x1F5F, 0x1F7D), (0x1F80, 0x1FB4), (0x1FB6, 0x1FBC),
   (0x1FBE, 0x1FBE), (0x1FC2, 0x1FC4), (0x1FC6, 0x1FCC), (0x1FD0, 0x1FD3), (0x1FD6, 0x1FDB),
   (0x1FE0, 0x1FEC), (0x1FF2, 0x1FF4), (0x1FF6, 0x1FFC), (0x200C, 0x200D), (0x203F, 0x2040),
   (0x2054, 0x2054), (0x2071, 0x2071), (0x207F, 0x207F), (0x2090, 0x209C), (0x20D0, 0x20DC),
   (0x20E1, 0x20E1), (0x20E5, 0x20F0), (0x2102, 0x2102), (0x2107, 0x2107), (0x210A, 0x2113),
   (0x2115, 0x2115), (0x2118, 0x211D), (0x2124, 0x2124), (0x2126, 0x2126), (0x2128, 0x2128),
   (0x212A, 0x2139), (0x213C, 0x213F), (0x2145, 0x2149), (0x214E, 0x214E), (0x2160, 0x2188),
   (0x2C00, 0x2CE4), (0x2CEB, 0x2CF3), (0x2D00, 0x2D25), (0x2D27, 0x2D27), (0x2D2D, 0x2D2D),
   (0x2D30, 0x2D67), (0x2D6F, 0x2D6F), (0x2D7F, 0x2D96), (0x2DA0, 0x2DA6), (0x2DA8, 0x2DAE),
   (0x2DB0, 0x2DB6), (0x2DB8, 0x2DBE), (0x2DC0, 0x2DC6), (0x2DC8, 0x2DCE), (0x2DD0, 0x2DD6),
   (0x2DD8, 0x2DDE), (0x2DE0, 0x2DFF), (0x3005, 0x3007), (0x3021, 0x302F), (0x3031, 0x3035),
   (0x3038, 0x303C), (0x3041, 0x3096), (0x3099, 0x309A), (0x309D, 0x309F), (0x30A1, 0x30FF),
   (0x3105, 0x312F), (0x3131, 0x318E), (0x31A0, 0x31BF), (0x31F0, 0x31FF), (0x3400, 0x4DBF),
   (0x4E00, 0xA48C), (0xA4D0, 0xA4FD), (0xA500, 0xA60C), (0xA610, 0xA62B), (0xA640, 0xA66F),
   (0xA674, 0xA67D), (0xA67F, 0xA6F1), (0xA717, 0xA71F), (0xA722, 0xA788), (0xA78B, 0xA7CD),
   (0xA7D0, 0xA7D1), (0xA7D3, 0xA7D3), (0xA7D5, 0xA7DC), (0xA7F2, 0xA827), (0xA82C, 0xA82C),
   (0xA840, 0xA873), (0xA880, 0xA8C5), (0xA8D0, 0xA8D9), (0xA8E0, 0xA8F7), (0xA8FB, 0xA8FB),
   (0xA8FD, 0xA92D), (0xA930, 0xA953), (0xA960, 0xA97C), (0xA980, 0xA9C0), (0xA9CF, 0xA9D9),
   (0xA9E0, 0xA9FE), (0xAA00, 0xAA36), (0xAA40, 0xAA4D), (0xAA50, 0xAA59), (0xAA60, 0xAA76),
   (0xAA7A, 0xAAC2), (0xAADB, 0xAADD), (0xAAE0, 0xAAEF), (0xAAF2, 0xAAF6), (0xAB01, 0xAB06),
   (0xAB09, 0xAB0E), (0xAB11, 0xAB16), (0xAB20, 0xAB26), (0xAB28, 0xAB2E), (0xAB30, 0xAB5A),
   (0xAB5C, 0xAB69), (0xAB70, 0xABEA), (0xABEC, 0xABED), (0xABF0, 0xABF9), (0xAC00, 0xD7A3),
   (0xD7B0, 0xD7C6), (0xD7CB, 0xD7FB), (0xF900, 0xFA6D), (0xFA70, 0xFAD9), (0xFB00, 0xFB06),
   (0xFB13, 0xFB17), (0xFB1D, 0xFB28), (0xFB2A, 0xFB36), (0xFB38, 0xFB3C), (0xFB3E, 0xFB3E),
   (0xFB40, 0xFB41), (0xFB43, 0xFB44), (0xFB46, 0xFBB1), (0xFBD3, 0xFC5D), (0xFC64, 0xFD3D),
   (0xFD50, 0xFD8F), (0xFD92, 0xFDC7), (0xFDF0, 0xFDF9), (0xFE00, 0xFE0F), (0xFE20, 0xFE2F),
   (0xFE33, 0xFE34), (0xFE4D, 0xFE4F), (0xFE71, 0xFE71), (0xFE73, 0xFE73), (0xFE77, 0xFE77),
   (0xFE79, 0xFE79), (0xFE7B, 0xFE7B), (0xFE7D, 0xFE7D), (0xFE7F, 0xFEFC), (0xFF10, 0xFF19),
   (0xFF21, 0xFF3A), (0xFF3F, 0xFF3F), (0xFF41, 0xFF5A), (0xFF65, 0xFFBE), (0xFFC2, 0xFFC7),
   (0xFFCA, 0xFFCF), (0xFFD2, 0xFFD7), (0xFFDA, 0xFFDC), (0x10000, 0x1000B), (0x1000D, 0x10026),
   (0x10028, 0x1003A), (0x1003C, 0x1003D), (0x1003F, 0x1004D), (0x10050, 0x1005D),
   (0x10080, 0x100FA), (0x10140, 0x10174), (0x101FD, 0x101FD), (0x10280, 0x1029C),
   (0x102A0, 0x102D0), (0x102E0, 0x102E0), (0x10300, 0x1031F), (0x1032D, 0x1034A),
   (0x10350, 0x1037A), (0x10380, 0x1039D), (0x103A0, 0x103C3), (0x103C8, 0x103CF),
   (0x103D1, 0x103D5), (0x10400, 0x1049D), (0x104A0, 0x104A9), (0x104B0, 0x104D3),
   (0x104D8, 0x104FB), (0x10500, 0x10527), (0x10530, 0x10563), (0x10570, 0x1057A),
   (0x1057C, 0x1058A), (0x1058C, 0x10592), (0x10594, 0x10595), (0x10597, 0x105A1),
   (0x105A3, 0x105B1), (0x105B3, 0x105B9), (0x105BB, 0x105BC), (0x105C0, 0x105F3),
   (0x10600, 0x10736), (0x10740, 0x10755), (0x10760, 0x10767), (0x10780, 0x10785),
   (0x10787, 0x107B0), (0x107B2, 0x107BA), (0x10800, 0x10805), (0x10808, 0x10808),
   (0x1080A, 0x10835), (0x10837, 0x10838), (0x1083C, 0x1083C), (0x1083F, 0x10855),
   (0x10860, 0x10876), (0x10880, 0x1089E), (0x108E0, 0x108F2), (0x108F4, 0x108F5),
   (0x10900, 0x10915), (0x10920, 0x10939), (0x10980, 0x109B7), (0x109BE, 0x109BF),
   (0x10A00, 0x10A03), (0x10A05, 0x10A06), (0x10A0C, 0x10A13), (0x10A15, 0x10A17),
   (0x10A19, 0x10A35), (0x10A38, 0x10A3A), (0x10A3F, 0x10A3F), (0x10A60, 0x10A7C),
   (0x10A80, 0x10A9C), (0x10AC0, 0x10AC7), (0x10AC9, 0x10AE6), (0x10B00, 0x10B35),
   (0x10B40, 0x10B55), (0x10B60, 0x10B72), (0x10B80, 0x10B91), (0x10C00, 0x10C48),
   (0x10C80, 0x10CB2), (0x10CC0, 0x10CF2), (0x10D00, 0x10D27), (0x10D30, 0x10D39),
   (0x10D40, 0x10D65), (0x10D69, 0x10D6D), (0x10D6F, 0x10D85), (0x10E80, 0x10EA9),
   (0x10EAB, 0x10EAC), (0x10EB0, 0x10EB1), (0x10EC2, 0x10EC4), (0x10EFC, 0x10F1C),
   (0x10F27, 0x10F27), (0x10F30, 0x10F50), (0x10F70, 0x10F85), (0x10FB0, 0x10FC4),
   (0x10FE0, 0x10FF6), (0x11000, 0x11046), (0x11066, 0x11075), (0x1107F, 0x110BA),
   (0x110C2, 0x110C2), (0x110D0, 0x110E8), (0x110F0, 0x110F9), (0x11100, 0x11134),
   (0x11136, 0x1113F), (0x11144, 0x11147), (0x11150, 0x11173), (0x11176, 0x11176),
   (0x11180, 0x111C4), (0x111C9, 0x111CC), (0x111CE, 0x111DA), (0x111DC, 0x111DC),
   (0x11200, 0x11211), (0x11213, 0x11237), (0x1123E, 0x11241), (0x11280, 0x11286),
   (0x11288, 0x11288), (0x1128A, 0x1128D), (0x1128F, 0x1129D), (0x1129F, 0x112A8),
   (0x112B0, 0x112EA), (0x112F0, 0x112F9), (0x11300, 0x11303), (0x11305, 0x1130C),
   (0x1130F, 0x11310), (0x11313, 0x11328), (0x1132A, 0x11330), (0x11332, 0x11333),
   (0x11335, 0x11339), (0x1133B, 0x11344), (0x11347, 0x11348), (0x1134B, 0x1134D),
   (0x11350, 0x11350), (0x11357, 0x11357), (0x1135D, 0x11363), (0x11366, 0x1136C),
   (0x11370, 0x11374), (0x11380, 0x11389), (0x1138B, 0x1138B), (0x1138E, 0x1138E),
   (0x11390, 0x113B5), (0x113B7, 0x113C0), (0x113C2, 0x113C2), (0x113C5, 0x113C5),
   (0x113C7, 0x113CA), (0x113CC, 0x113D3), (0x113E1, 0x113E2), (0x11400, 0x1144A),
   (0x11450, 0x11459), (0x1145E, 0x11461), (0x11480, 0x114C5), (0x114C7, 0x114C7),
   (0x114D0, 0x114D9), (0x11580, 0x115B5), (0x115B8, 0x115C0), (0x115D8, 0x115DD),
   (0x11600, 0x11640), (0x11644, 0x11644), (0x11650, 0x11659), (0x11680, 0x116B8),
   (0x116C0, 0x116C9), (0x116D0, 0x116E3), (0x11700, 0x1171A), (0x1171D, 0x1172B),
   (0x11730, 0x11739), (0x11740, 0x11746), (0x11800, 0x1183A), (0x118A0, 0x118E9),
   (0x118FF, 0x11906), (0x11909, 0x11909), (0x1190C, 0x11913), (0x11915, 0x11916),
   (0x11918, 0x11935), (0x11937, 0x11938), (0x1193B, 0x11943), (0x11950, 0x11959),
   (0x119A0, 0x119A7), (0x119AA, 0x119D7), (0x119DA, 0x119E1), (0x119E3, 0x119E4),
   (0x11A00, 0x11A3E), (0x11A47, 0x11A47), (0x11A50, 0x11A99), (0x11A9D, 0x11A9D),
   (0x11AB0, 0x11AF8), (0x11BC0, 0x11BE0), (0x11BF0, 0x11BF9), (0x11C00, 0x11C08),
   (0x11C0A, 0x11C36), (0x11C38, 0x11C40), (0x11C50, 0x11C59), (0x11C72, 0x11C8F),
   (0x11C92, 0x11CA7), (0x11CA9, 0x11CB6), (0x11D00, 0x11D06), (0x11D08, 0x11D09),
   (0x11D0B, 0x11D36), (0x11D3A, 0x11D3A), (0x11D3C, 0x11D3D), (0x11D3F, 0x11D47),
   (0x11D50, 0x11D59), (0x11D60, 0x11D65), (0x11D67, 0x11D68), (0x11D6A, 0x11D8E),
   (0x11D90, 0x11D91), (0x11D93, 0x11D98), (0x11DA0, 0x11DA9), (0x11EE0, 0x11EF6),
   (0x11F00, 0x11F10), (0x11F12, 0x11F3A), (0x11F3E, 0x11F42), (0x11F50, 0x11F5A),
   (0x11FB0, 0x11FB0), (0x12000, 0x12399), (0x12400, 0x1246E), (0x12480, 0x12543),
   (0x12F90, 0x12FF0), (0x13000, 0x1342F), (0x13440, 0x13455), (0x13460, 0x143FA),
   (0x14400, 0x14646), (0x16100, 0x16139), (0x16800, 0x16A38), (0x16A40, 0x16A5E),
   (0x16A60, 0x16A69), (0x16A70, 0x16ABE), (0x16AC0, 0x16AC9), (0x16AD0, 0x16AED),
   (0x16AF0, 0x16AF4), (0x16B00, 0x16B36), (0x16B40, 0x16B43), (0x16B50, 0x16B59),
   (0x16B63, 0x16B77), (0x16B7D, 0x16B8F), (0x16D40, 0x16D6C), (0x16D70, 0x16D79),
   (0x16E40, 0x16E7F), (0x16F00, 0x16F4A), (0x16F4F, 0x16F87), (0x16F8F, 0x16F9F),
   (0x16FE0, 0x16FE1), (0x16FE3, 0x16FE4), (0x16FF0, 0x16FF1), (0x17000, 0x187F7),
   (0x18800, 0x18CD5), (0x18CFF, 0x18D08), (0x1AFF0, 0x1AFF3), (0x1AFF5, 0x1AFFB),
   (0x1AFFD, 0x1AFFE), (0x1B000, 0x1B122), (0x1B132, 0x1B132), (0x1B150, 0x1B152),
   (0x1B155, 0x1B155), (0x1B164, 0x1B167), (0x1B170, 0x1B2FB), (0x1BC00, 0x1BC6A),
   (0x1BC70, 0x1BC7C), (0x1BC80, 0x1BC88), (0x1BC90, 0x1BC99), (0x1BC9D, 0x1BC9E),
   (0x1CCF0, 0x1CCF9), (0x1CF00, 0x1CF2D), (0x1CF30, 0x1CF46), (0x1D165, 0x1D169),
   (0x1D16D, 0x1D172), (0x1D17B, 0x1D182), (0x1D185, 0x1D18B), (0x1D1AA, 0x1D1AD),
   (0x1D242, 0x1D244), (0x1D400, 0x1D454), (0x1D456, 0x1D49C), (0x1D49E, 0x1D49F),
   (0x1D4A2, 0x1D4A2), (0x1D4A5, 0x1D4A6), (0x1D4A9, 0x1D4AC), (0x1D4AE, 0x1D4B9),
   (0x1D4BB, 0x1D4BB), (0x1D4BD, 0x1D4C3), (0x1D4C5, 0x1D505), (0x1D507, 0x1D50A),
   (0x1D50D, 0x1D514), (0x1D516, 0x1D51C), (0x1D51E, 0x1D539), (0x1D53B, 0x1D53E),
   (0x1D540, 0x1D544), (0x1D546, 0x1D546), (0x1D54A, 0x1D550), (0x1D552, 0x1D6A5),
   (0x1D6A8, 0x1D6C0), (0x1D6C2, 0x1D6DA), (0x1D6DC, 0x1D6FA), (0x1D6FC, 0x1D714),
   (0x1D716, 0x1D734), (0x1D736, 0x1D74E), (0x1D750, 0x1D76E), (0x1D770, 0x1D788),
   (0x1D78A, 0x1D7A8), (0x1D7AA, 0x1D7C2), (0x1D7C4, 0x1D7CB), (0x1D7CE, 0x1D7FF),
   (0x1DA00, 0x1DA36), (0x1DA3B, 0x1DA6C), (0x1DA75, 0x1DA75), (0x1DA84, 0x1DA84),
   (0x1DA9B, 0x1DA9F), (0x1DAA1, 0x1DAAF), (0x1DF00, 0x1DF1E), (0x1DF25, 0x1DF2A),
   (0x1E000, 0x1E006), (0x1E008, 0x1E018), (0x1E01B, 0x1E021), (0x1E023, 0x1E024),
   (0x1E026, 0x1E02A), (0x1E030, 0x1E06D), (0x1E08F, 0x1E08F), (0x1E100, 0x1E12C),
   (0x1E130, 0x1E13D), (0x1E140, 0x1E149), (0x1E14E, 0x1E14E), (0x1E290, 0x1E2AE),
   (0x1E2C0, 0x1E2F9), (0x1E4D0, 0x1E4F9), (0x1E5D0, 0x1E5FA), (0x1E7E0, 0x1E7E6),
   (0x1E7E8, 0x1E7EB), (0x1E7ED, 0x1E7EE), (0x1E7F0, 0x1E7FE), (0x1E800, 0x1E8C4),
   (0x1E8D0, 0x1E8D6), (0x1E900, 0x1E94B), (0x1E950, 0x1E959), (0x1EE00, 0x1EE03),
   (0x1EE05, 0x1EE1F), (0x1EE21, 0x1EE22), (0x1EE24, 0x1EE24), (0x1EE27, 0x1EE27),
   (0x1EE29, 0x1EE32), (0x1EE34, 0x1EE37), (0x1EE39, 0x1EE39), (0x1EE3B, 0x1EE3B),
   (0x1EE42, 0x1EE42), (0x1EE47, 0x1EE47), (0x1EE49, 0x1EE49), (0x1EE4B, 0x1EE4B),
   (0x1EE4D, 0x1EE4F), (0x1EE51, 0x1EE52), (0x1EE54, 0x1EE54), (0x1EE57, 0x1EE57),
   (0x1EE59, 0x1EE59), (0x1EE5B, 0x1EE5B), (0x1EE5D, 0x1EE5D), (0x1EE5F, 0x1EE5F),
   (0x1EE61, 0x1EE62), (0x1EE64, 0x1EE64), (0x1EE67, 0x1EE6A), (0x1EE6C, 0x1EE72),
   (0x1EE74, 0x1EE77), (0x1EE79, 0x1EE7C), (0x1EE7E, 0x1EE7E), (0x1EE80, 0x1EE89),
   (0x1EE8B, 0x1EE9B), (0x1EEA1, 0x1EEA3), (0x1EEA5, 0x1EEA9), (0x1EEAB, 0x1EEBB),
   (0x1FBF0, 0x1FBF9), (0x20000, 0x2A6DF), (0x2A700, 0x2B739), (0x2B740, 0x2B81D),
   (0x2B820, 0x2CEA1), (0x2CEB0, 0x2EBE0), (0x2EBF0, 0x2EE5D), (0x2F800, 0x2FA1D),
   (0x30000, 0x3134A), (0x31350, 0x323AF), (0xE0100, 0xE01EF)]

/-- Alphabetic characters. -/
def alphabetic : CodeTable := CodeTable.ofText
  "AA B5 BA C0~D6 D8~F6 F8~2C1 2C6~2D1 2E0~2E4 2EC 2EE 345 363~374 376~377 37A~37D 37F 386
   388~38A 38C 38E~3A1 3A3~3F5 3F7~481 48A~52F 531~556 559 560~588 5B0~5BD 5BF 5C1~5C2 5C4~5C5
   5C7 5D0~5EA 5EF~5F2 610~61A 620~657 659~65F 66E~6D3 6D5~6DC 6E1~6E8 6ED~6EF 6FA~6FC 6FF
   710~73F 74D~7B1 7CA~7EA 7F4~7F5 7FA 800~817 81A~82C 840~858 860~86A 870~887 889~88F 897
   8A0~8C9 8D4~8DF 8E3~8E9 8F0~93B 93D~94C 94E~950 955~963 971~983 985~98C 98F~990 993~9A8
   9AA~9B0 9B2 9B6~9B9 9BD~9C4 9C7~9C8 9CB~9CC 9CE 9D7 9DC~9DD 9DF~9E3 9F0~9F1 9FC A01~A03
   A05~A0A A0F~A10 A13~A28 A2A~A30 A32~A33 A35~A36 A38~A39 A3E~A42 A47~A48 A4B~A4C A51 A59~A5C
   A5E A70~A75 A81~A83 A85~A8D A8F~A91 A93~AA8 AAA~AB0 AB2~AB3 AB5~AB9 ABD~AC5 AC7~AC9 ACB~ACC
   AD0 AE0~AE3 AF9~AFC B01~B03 B05~B0C B0F~B10 B13~B28 B2A~B30 B32~B33 B35~B39 B3D~B44 B47~B48
   B4B~B4C B56~B57 B5C~B5D B5F~B63 B71 B82~B83 B85~B8A B8E~B90 B92~B95 B99~B9A B9C B9E~B9F
   BA3~BA4 BA8~BAA BAE~BB9 BBE~BC2 BC6~BC8 BCA~BCC BD0 BD7 C00~C0C C0E~C10 C12~C28 C2A~C39
   C3D~C44 C46~C48 C4A~C4C C55~C56 C58~C5A C5C~C5D C60~C63 C80~C83 C85~C8C C8E~C90 C92~CA8
   CAA~CB3 CB5~CB9 CBD~CC4 CC6~CC8 CCA~CCC CD5~CD6 CDC~CDE CE0~CE3 CF1~CF3 D00~D0C D0E~D10
   D12~D3A D3D~D44 D46~D48 D4A~D4C D4E D54~D57 D5F~D63 D7A~D7F D81~D83 D85~D96 D9A~DB1 DB3~DBB
   DBD DC0~DC6 DCF~DD4 DD6 DD8~DDF DF2~DF3 E01~E3A E40~E46 E4D E81~E82 E84 E86~E8A E8C~EA3 EA5
   EA7~EB9 EBB~EBD EC0~EC4 EC6 ECD EDC~EDF F00 F40~F47 F49~F6C F71~F83 F88~F97 F99~FBC
   1000~1036 1038 103B~103F 1050~108F 109A~109D 10A0~10C5 10C7 10CD 10D0~10FA 10FC~1248
   124A~124D 1250~1256 1258 125A~125D 1260~1288 128A~128D 1290~12B0 12B2~12B5 12B8~12BE 12C0
   12C2~12C5 12C8~12D6 12D8~1310 1312~1315 1318~135A 1380~138F 13A0~13F5 13F8~13FD 1401~166C
   166F~167F 1681~169A 16A0~16EA 16EE~16F8 1700~1713 171F~1733 1740~1753 1760~176C 176E~1770
   1772~1773 1780~17B3 17B6~17C8 17D7 17DC 1820~1878 1880~18AA 18B0~18F5 1900~191E 1920~192B
   1930~1938 1950~196D 1970~1974 1980~19AB 19B0~19C9 1A00~1A1B 1A20~1A5E 1A61~1A74 1AA7
   1ABF~1AC0 1ACC~1ACE 1B00~1B33 1B35~1B43 1B45~1B4C 1B80~1BA9 1BAC~1BAF 1BBA~1BE5 1BE7~1BF1
   1C00~1C36 1C4D~1C4F 1C5A~1C7D 1C80~1C8A 1C90~1CBA 1CBD~1CBF 1CE9~1CEC 1CEE~1CF3 1CF5~1CF6
   1CFA 1D00~1DBF 1DD3~1DF4 1E00~1F15 1F18~1F1D 1F20~1F45 1F48~1F4D 1F50~1F57 1F59~1F5D/2
   1F5F~1F7D 1F80~1FB4 1FB6~1FBC 1FBE 1FC2~1FC4 1FC6~1FCC 1FD0~1FD3 1FD6~1FDB 1FE0~1FEC
   1FF2~1FF4 1FF6~1FFC 2071 207F 2090~209C 2102 2107 210A~2113 2115 2119~211D 2124~2128/2
   212A~212D 212F~2139 213C~213F 2145~2149 214E 2160~2188 24B6~24E9 2C00~2CE4 2CEB~2CEE
   2CF2~2CF3 2D00~2D25 2D27 2D2D 2D30~2D67 2D6F 2D80~2D96 2DA0~2DA6 2DA8~2DAE 2DB0~2DB6
   2DB8~2DBE 2DC0~2DC6 2DC8~2DCE 2DD0~2DD6 2DD8~2DDE 2DE0~2DFF 2E2F 3005~3007 3021~3029
   3031~3035 3038~303C 3041~3096 309D~309F 30A1~30FA 30FC~30FF 3105~312F 3131~318E 31A0~31BF
   31F0~31FF 3400~4DBF 4E00~A48C A4D0~A4FD A500~A60C A610~A61F A62A~A62B A640~A66E A674~A67B
   A67F~A6EF A717~A71F A722~A788 A78B~A7DC A7F1~A805 A807~A827 A840~A873 A880~A8C3 A8C5
   A8F2~A8F7 A8FB A8FD~A8FF A90A~A92A A930~A952 A960~A97C A980~A9B2 A9B4~A9BF A9CF A9E0~A9EF
   A9FA~A9FE AA00~AA36 AA40~AA4D AA60~AA76 AA7A~AABE AAC0 AAC2 AADB~AADD AAE0~AAEF AAF2~AAF5
   AB01~AB06 AB09~AB0E AB11~AB16 AB20~AB26 AB28~AB2E AB30~AB5A AB5C~AB69 AB70~ABEA AC00~D7A3
   D7B0~D7C6 D7CB~D7FB F900~FA6D FA70~FAD9 FB00~FB06 FB13~FB17 FB1D~FB28 FB2A~FB36 FB38~FB3C
   FB3E FB40~FB41 FB43~FB44 FB46~FBB1 FBD3~FD3D FD50~FD8F FD92~FDC7 FDF0~FDFB FE70~FE74
   FE76~FEFC FF21~FF3A FF41~FF5A FF66~FFBE FFC2~FFC7 FFCA~FFCF FFD2~FFD7 FFDA~FFDC 10000~1000B
   1000D~10026 10028~1003A 1003C~1003D 1003F~1004D 10050~1005D 10080~100FA 10140~10174
   10280~1029C 102A0~102D0 10300~1031F 1032D~1034A 10350~1037A 10380~1039D 103A0~103C3
   103C8~103CF 103D1~103D5 10400~1049D 104B0~104D3 104D8~104FB 10500~10527 10530~10563
   10570~1057A 1057C~1058A 1058C~10592 10594~10595 10597~105A1 105A3~105B1 105B3~105B9
   105BB~105BC 105C0~105F3 10600~10736 10740~10755 10760~10767 10780~10785 10787~107B0
   107B2~107BA 10800~10805 10808 1080A~10835 10837~10838 1083C 1083F~10855 10860~10876
   10880~1089E 108E0~108F2 108F4~108F5 10900~10915 10920~10939 10940~10959 10980~109B7
   109BE~109BF 10A00~10A03 10A05~10A06 10A0C~10A13 10A15~10A17 10A19~10A35 10A60~10A7C
   10A80~10A9C 10AC0~10AC7 10AC9~10AE4 10B00~10B35 10B40~10B55 10B60~10B72 10B80~10B91
   10C00~10C48 10C80~10CB2 10CC0~10CF2 10D00~10D27 10D4A~10D65 10D69 10D6F~10D85 10E80~10EA9
   10EAB~10EAC 10EB0~10EB1 10EC2~10EC7 10EFA~10EFC 10F00~10F1C 10F27 10F30~10F45 10F70~10F81
   10FB0~10FC4 10FE0~10FF6 11000~11045 11071~11075 11080~110B8 110C2 110D0~110E8 11100~11132
   11144~11147 11150~11172 11176 11180~111BF 111C1~111C4 111CE~111CF 111DA 111DC 11200~11211
   11213~11234 11237 1123E~11241 11280~11286 11288 1128A~1128D 1128F~1129D 1129F~112A8
   112B0~112E8 11300~11303 11305~1130C 1130F~11310 11313~11328 1132A~11330 11332~11333
   11335~11339 1133D~11344 11347~11348 1134B~1134C 11350 11357 1135D~11363 11380~11389 1138B
   1138E 11390~113B5 113B7~113C0 113C2 113C5 113C7~113CA 113CC~113CD 113D1 113D3 11400~11441
   11443~11445 11447~1144A 1145F~11461 11480~114C1 114C4~114C5 114C7 11580~115B5 115B8~115BE
   115D8~115DD 11600~1163E 11640 11644 11680~116B5 116B8 11700~1171A 1171D~1172A 11740~11746
   11800~11838 118A0~118DF 118FF~11906 11909 1190C~11913 11915~11916 11918~11935 11937~11938
   1193B~1193C 1193F~11942 119A0~119A7 119AA~119D7 119DA~119DF 119E1 119E3~119E4 11A00~11A32
   11A35~11A3E 11A50~11A97 11A9D 11AB0~11AF8 11B60~11B67 11BC0~11BE0 11C00~11C08 11C0A~11C36
   11C38~11C3E 11C40 11C72~11C8F 11C92~11CA7 11CA9~11CB6 11D00~11D06 11D08~11D09 11D0B~11D36
   11D3A 11D3C~11D3D 11D3F~11D41 11D43 11D46~11D47 11D60~11D65 11D67~11D68 11D6A~11D8E
   11D90~11D91 11D93~11D96 11D98 11DB0~11DDB 11EE0~11EF6 11F00~11F10 11F12~11F3A 11F3E~11F40
   11FB0 12000~12399 12400~1246E 12480~12543 12F90~12FF0 13000~1342F 13441~13446 13460~143FA
   14400~14646 16100~1612E 16800~16A38 16A40~16A5E 16A70~16ABE 16AD0~16AED 16B00~16B2F
   16B40~16B43 16B63~16B77 16B7D~16B8F 16D40~16D6C 16E40~16E7F 16EA0~16EB8 16EBB~16ED3
   16F00~16F4A 16F4F~16F87 16F8F~16F9F 16FE0~16FE1 16FE3 16FF0~16FF6 17000~18CD5 18CFF~18D1E
   18D80~18DF2 1AFF0~1AFF3 1AFF5~1AFFB 1AFFD~1AFFE 1B000~1B122 1B132 1B150~1B152 1B155
   1B164~1B167 1B170~1B2FB 1BC00~1BC6A 1BC70~1BC7C 1BC80~1BC88 1BC90~1BC99 1BC9E 1D400~1D454
   1D456~1D49C 1D49E~1D49F 1D4A2 1D4A5~1D4A6 1D4A9~1D4AC 1D4AE~1D4B9 1D4BB 1D4BD~1D4C3
   1D4C5~1D505 1D507~1D50A 1D50D~1D514 1D516~1D51C 1D51E~1D539 1D53B~1D53E 1D540~1D544 1D546
   1D54A~1D550 1D552~1D6A5 1D6A8~1D6C0 1D6C2~1D6DA 1D6DC~1D6FA 1D6FC~1D714 1D716~1D734
   1D736~1D74E 1D750~1D76E 1D770~1D788 1D78A~1D7A8 1D7AA~1D7C2 1D7C4~1D7CB 1DF00~1DF1E
   1DF25~1DF2A 1E000~1E006 1E008~1E018 1E01B~1E021 1E023~1E024 1E026~1E02A 1E030~1E06D 1E08F
   1E100~1E12C 1E137~1E13D 1E14E 1E290~1E2AD 1E2C0~1E2EB 1E4D0~1E4EB 1E5D0~1E5ED 1E5F0
   1E6C0~1E6DE 1E6E0~1E6F5 1E6FE~1E6FF 1E7E0~1E7E6 1E7E8~1E7EB 1E7ED~1E7EE 1E7F0~1E7FE
   1E800~1E8C4 1E900~1E943 1E947 1E94B 1EE00~1EE03 1EE05~1EE1F 1EE21~1EE22 1EE24 1EE27
   1EE29~1EE32 1EE34~1EE37 1EE39 1EE3B 1EE42 1EE47~1EE4B/2 1EE4D~1EE4F 1EE51~1EE52 1EE54
   1EE57~1EE5F/2 1EE61~1EE62 1EE64 1EE67~1EE6A 1EE6C~1EE72 1EE74~1EE77 1EE79~1EE7C 1EE7E
   1EE80~1EE89 1EE8B~1EE9B 1EEA1~1EEA3 1EEA5~1EEA9 1EEAB~1EEBB 1F130~1F149 1F150~1F169
   1F170~1F189 20000~2A6DF 2A700~2B81D 2B820~2CEAD 2CEB0~2EBE0 2EBF0~2EE5D 2F800~2FA1D
   30000~3134A 31350~33479"

/-- Characters of the three number categories. -/
def numeric : CodeTable := CodeTable.ofText
  "B2~B3 B9 BC~BE 660~669 6F0~6F9 7C0~7C9 966~96F 9E6~9EF 9F4~9F9 A66~A6F AE6~AEF B66~B6F
   B72~B77 BE6~BF2 C66~C6F C78~C7E CE6~CEF D58~D5E D66~D78 DE6~DEF E50~E59 ED0~ED9 F20~F33
   1040~1049 1090~1099 1369~137C 16EE~16F0 17E0~17E9 17F0~17F9 1810~1819 1946~194F 19D0~19DA
   1A80~1A89 1A90~1A99 1B50~1B59 1BB0~1BB9 1C40~1C49 1C50~1C59 2070 2074~2079 2080~2089
   2150~2182 2185~2189 2460~249B 24EA~24FF 2776~2793 2CFD 3007 3021~3029 3038~303A 3192~3195
   3220~3229 3248~324F 3251~325F 3280~3289 32B1~32BF A620~A629 A6E6~A6EF A830~A835 A8D0~A8D9
   A900~A909 A9D0~A9D9 A9F0~A9F9 AA50~AA59 ABF0~ABF9 FF10~FF19 10107~10133 10140~10178
   1018A~1018B 102E1~102FB 10320~10323 10341 1034A 103D1~103D5 104A0~104A9 10858~1085F
   10879~1087F 108A7~108AF 108FB~108FF 10916~1091B 109BC~109BD 109C0~109CF 109D2~109FF
   10A40~10A48 10A7D~10A7E 10A9D~10A9F 10AEB~10AEF 10B58~10B5F 10B78~10B7F 10BA9~10BAF
   10CFA~10CFF 10D30~10D39 10D40~10D49 10E60~10E7E 10F1D~10F26 10F51~10F54 10FC5~10FCB
   11052~1106F 110F0~110F9 11136~1113F 111D0~111D9 111E1~111F4 112F0~112F9 11450~11459
   114D0~114D9 11650~11659 116C0~116C9 116D0~116E3 11730~1173B 118E0~118F2 11950~11959
   11BF0~11BF9 11C50~11C6C 11D50~11D59 11DA0~11DA9 11DE0~11DE9 11F50~11F59 11FC0~11FD4
   12400~1246E 16130~16139 16A60~16A69 16AC0~16AC9 16B50~16B59 16B5B~16B61 16D70~16D79
   16E80~16E96 16FF4~16FF6 1CCF0~1CCF9 1D2C0~1D2D3 1D2E0~1D2F3 1D360~1D378 1D7CE~1D7FF
   1E140~1E149 1E2F0~1E2F9 1E4F0~1E4F9 1E5F1~1E5FA 1E8C7~1E8CF 1E950~1E959 1EC71~1ECAB
   1ECAD~1ECAF 1ECB1~1ECB4 1ED01~1ED2D 1ED2F~1ED3D 1F100~1F10C 1FBF0~1FBF9"

/-- Decimal digits. -/
def decimalDigit : CodeTable := CodeTable.ofText
  "660~669 6F0~6F9 7C0~7C9 966~96F 9E6~9EF A66~A6F AE6~AEF B66~B6F BE6~BEF C66~C6F CE6~CEF
   D66~D6F DE6~DEF E50~E59 ED0~ED9 F20~F29 1040~1049 1090~1099 17E0~17E9 1810~1819 1946~194F
   19D0~19D9 1A80~1A89 1A90~1A99 1B50~1B59 1BB0~1BB9 1C40~1C49 1C50~1C59 A620~A629 A8D0~A8D9
   A900~A909 A9D0~A9D9 A9F0~A9F9 AA50~AA59 ABF0~ABF9 FF10~FF19 104A0~104A9 10D30~10D39
   10D40~10D49 11066~1106F 110F0~110F9 11136~1113F 111D0~111D9 112F0~112F9 11450~11459
   114D0~114D9 11650~11659 116C0~116C9 116D0~116E3 11730~11739 118E0~118E9 11950~11959
   11BF0~11BF9 11C50~11C59 11D50~11D59 11DA0~11DA9 11DE0~11DE9 11F50~11F59 16130~16139
   16A60~16A69 16AC0~16AC9 16B50~16B59 16D70~16D79 1CCF0~1CCF9 1D7CE~1D7FF 1E140~1E149
   1E2F0~1E2F9 1E4F0~1E4F9 1E5F1~1E5FA 1E950~1E959 1FBF0~1FBF9"

/-- Combining marks. -/
def mark : CodeTable := CodeTable.ofText
  "300~36F 483~489 591~5BD 5BF 5C1~5C2 5C4~5C5 5C7 610~61A 64B~65F 670 6D6~6DC 6DF~6E4 6E7~6E8
   6EA~6ED 711 730~74A 7A6~7B0 7EB~7F3 7FD 816~819 81B~823 825~827 829~82D 859~85B 897~89F
   8CA~8E1 8E3~903 93A~93C 93E~94F 951~957 962~963 981~983 9BC 9BE~9C4 9C7~9C8 9CB~9CD 9D7
   9E2~9E3 9FE A01~A03 A3C A3E~A42 A47~A48 A4B~A4D A51 A70~A71 A75 A81~A83 ABC ABE~AC5 AC7~AC9
   ACB~ACD AE2~AE3 AFA~AFF B01~B03 B3C B3E~B44 B47~B48 B4B~B4D B55~B57 B62~B63 B82 BBE~BC2
   BC6~BC8 BCA~BCD BD7 C00~C04 C3C C3E~C44 C46~C48 C4A~C4D C55~C56 C62~C63 C81~C83 CBC CBE~CC4
   CC6~CC8 CCA~CCD CD5~CD6 CE2~CE3 CF3 D00~D03 D3B~D3C D3E~D44 D46~D48 D4A~D4D D57 D62~D63
   D81~D83 DCA DCF~DD4 DD6 DD8~DDF DF2~DF3 E31 E34~E3A E47~E4E EB1 EB4~EBC EC8~ECE F18~F19
   F35~F39/2 F3E~F3F F71~F84 F86~F87 F8D~F97 F99~FBC FC6 102B~103E 1056~1059 105E~1060
   1062~1064 1067~106D 1071~1074 1082~108D 108F 109A~109D 135D~135F 1712~1715 1732~1734
   1752~1753 1772~1773 17B4~17D3 17DD 180B~180D 180F 1885~1886 18A9 1920~192B 1930~193B
   1A17~1A1B 1A55~1A5E 1A60~1A7C 1A7F 1AB0~1ADD 1AE0~1AEB 1B00~1B04 1B34~1B44 1B6B~1B73
   1B80~1B82 1BA1~1BAD 1BE6~1BF3 1C24~1C37 1CD0~1CD2 1CD4~1CE8 1CED 1CF4 1CF7~1CF9 1DC0~1DFF
   20D0~20F0 2CEF~2CF1 2D7F 2DE0~2DFF 302A~302F 3099~309A A66F~A672 A674~A67D A69E~A69F
   A6F0~A6F1 A802 A806 A80B A823~A827 A82C A880~A881 A8B4~A8C5 A8E0~A8F1 A8FF A926~A92D
   A947~A953 A980~A983 A9B3~A9C0 A9E5 AA29~AA36 AA43 AA4C~AA4D AA7B~AA7D AAB0 AAB2~AAB4
   AAB7~AAB8 AABE~AABF AAC1 AAEB~AAEF AAF5~AAF6 ABE3~ABEA ABEC~ABED FB1E FE00~FE0F FE20~FE2F
   101FD 102E0 10376~1037A 10A01~10A03 10A05~10A06 10A0C~10A0F 10A38~10A3A 10A3F 10AE5~10AE6
   10D24~10D27 10D69~10D6D 10EAB~10EAC 10EFA~10EFF 10F46~10F50 10F82~10F85 11000~11002
   11038~11046 11070 11073~11074 1107F~11082 110B0~110BA 110C2 11100~11102 11127~11134
   11145~11146 11173 11180~11182 111B3~111C0 111C9~111CC 111CE~111CF 1122C~11237 1123E 11241
   112DF~112EA 11300~11303 1133B~1133C 1133E~11344 11347~11348 1134B~1134D 11357 11362~11363
   11366~1136C 11370~11374 113B8~113C0 113C2 113C5 113C7~113CA 113CC~113D0 113D2 113E1~113E2
   11435~11446 1145E 114B0~114C3 115AF~115B5 115B8~115C0 115DC~115DD 11630~11640 116AB~116B7
   1171D~1172B 1182C~1183A 11930~11935 11937~11938 1193B~1193E 11940 11942~11943 119D1~119D7
   119DA~119E0 119E4 11A01~11A0A 11A33~11A39 11A3B~11A3E 11A47 11A51~11A5B 11A8A~11A99
   11B60~11B67 11C2F~11C36 11C38~11C3F 11C92~11CA7 11CA9~11CB6 11D31~11D36 11D3A 11D3C~11D3D
   11D3F~11D45 11D47 11D8A~11D8E 11D90~11D91 11D93~11D97 11EF3~11EF6 11F00~11F01 11F03
   11F34~11F3A 11F3E~11F42 11F5A 13440 13447~13455 1611E~1612F 16AF0~16AF4 16B30~16B36 16F4F
   16F51~16F87 16F8F~16F92 16FE4 16FF0~16FF1 1BC9D~1BC9E 1CF00~1CF2D 1CF30~1CF46 1D165~1D169
   1D16D~1D172 1D17B~1D182 1D185~1D18B 1D1AA~1D1AD 1D242~1D244 1DA00~1DA36 1DA3B~1DA6C 1DA75
   1DA84 1DA9B~1DA9F 1DAA1~1DAAF 1E000~1E006 1E008~1E018 1E01B~1E021 1E023~1E024 1E026~1E02A
   1E08F 1E130~1E136 1E2AE 1E2EC~1E2EF 1E4EC~1E4EF 1E5EE~1E5EF 1E6E3 1E6E6 1E6EE~1E6EF 1E6F5
   1E8D0~1E8D6 1E944~1E94A E0100~E01EF"

/-- Upper-case characters. -/
def uppercase : CodeTable := CodeTable.ofText
  "C0~D6 D8~DE 100~136/2 139~147/2 14A~176/2 178~179 17B 17D 181~182 184 186~187 189~18B
   18E~191 193~194 196~198 19C~19D 19F~1A0 1A2 1A4 1A6~1A7 1A9 1AC 1AE~1AF 1B1~1B3 1B5 1B7~1B8
   1BC 1C4 1C7 1CA 1CD~1DB/2 1DE~1EE/2 1F1 1F4 1F6~1F8 1FA~232/2 23A~23B 23D~23E 241 243~246
   248~24E/2 370 372 376 37F 386 388~38A 38C 38E~38F 391~3A1 3A3~3AB 3CF 3D2~3D4 3D8~3EE/2 3F4
   3F7 3F9~3FA 3FD~42F 460~480/2 48A~4BE/2 4C0~4C1 4C3~4CD/2 4D0~52E/2 531~556 10A0~10C5 10C7
   10CD 13A0~13F5 1C89 1C90~1CBA 1CBD~1CBF 1E00~1E94/2 1E9E~1EFE/2 1F08~1F0F 1F18~1F1D
   1F28~1F2F 1F38~1F3F 1F48~1F4D 1F59~1F5F/2 1F68~1F6F 1FB8~1FBB 1FC8~1FCB 1FD8~1FDB 1FE8~1FEC
   1FF8~1FFB 2102 2107 210B~210D 2110~2112 2115 2119~211D 2124~2128/2 212A~212D 2130~2133
   213E~213F 2145 2160~216F 2183 24B6~24CF 2C00~2C2F 2C60 2C62~2C64 2C67~2C6B/2 2C6D~2C70 2C72
   2C75 2C7E~2C80 2C82~2CE2/2 2CEB 2CED 2CF2 A640~A66C/2 A680~A69A/2 A722~A72E/2 A732~A76E/2
   A779 A77B A77D~A77E A780~A786/2 A78B A78D A790 A792 A796~A7A8/2 A7AA~A7AE A7B0~A7B4
   A7B6~A7C2/2 A7C4~A7C7 A7C9 A7CB~A7CC A7CE~A7DC/2 A7F5 FF21~FF3A 10400~10427 104B0~104D3
   10570~1057A 1057C~1058A 1058C~10592 10594~10595 10C80~10CB2 10D50~10D65 118A0~118BF
   16E40~16E5F 16EA0~16EB8 1D400~1D419 1D434~1D44D 1D468~1D481 1D49C 1D49E~1D49F 1D4A2
   1D4A5~1D4A6 1D4A9~1D4AC 1D4AE~1D4B5 1D4D0~1D4E9 1D504~1D505 1D507~1D50A 1D50D~1D514
   1D516~1D51C 1D538~1D539 1D53B~1D53E 1D540~1D544 1D546 1D54A~1D550 1D56C~1D585 1D5A0~1D5B9
   1D5D4~1D5ED 1D608~1D621 1D63C~1D655 1D670~1D689 1D6A8~1D6C0 1D6E2~1D6FA 1D71C~1D734
   1D756~1D76E 1D790~1D7A8 1D7CA 1E900~1E921 1F130~1F149 1F150~1F169 1F170~1F189"

/-- Lower-case characters. -/
def lowercase : CodeTable := CodeTable.ofText
  "AA B5 BA DF~F6 F8~FF 101~135/2 137~138 13A~146/2 148~149 14B~177/2 17A 17C 17E~180 183 185
   188 18C~18D 192 195 199~19B 19E 1A1~1A5/2 1A8 1AA~1AB 1AD 1B0 1B4 1B6 1B9~1BA 1BD~1BF 1C6
   1C9 1CC~1DA/2 1DC~1DD 1DF~1ED/2 1EF~1F0 1F3 1F5 1F9~231/2 233~239 23C 23F~240 242 247~24D/2
   24F~293 296~2B8 2C0~2C1 2E0~2E4 345 371 373 377 37A~37D 390 3AC~3CE 3D0~3D1 3D5~3D7
   3D9~3ED/2 3EF~3F3 3F5 3F8 3FB~3FC 430~45F 461~481/2 48B~4BF/2 4C2~4CC/2 4CE~4CF 4D1~52F/2
   560~588 10D0~10FA 10FC~10FF 13F8~13FD 1C80~1C88 1C8A 1D00~1DBF 1E01~1E93/2 1E95~1E9D
   1E9F~1EFD/2 1EFF~1F07 1F10~1F15 1F20~1F27 1F30~1F37 1F40~1F45 1F50~1F57 1F60~1F67 1F70~1F7D
   1F80~1F87 1F90~1F97 1FA0~1FA7 1FB0~1FB4 1FB6~1FB7 1FBE 1FC2~1FC4 1FC6~1FC7 1FD0~1FD3
   1FD6~1FD7 1FE0~1FE7 1FF2~1FF4 1FF6~1FF7 2071 207F 2090~209C 210A 210E~210F 2113 212F 2134
   2139 213C~213D 2146~2149 214E 2170~217F 2184 24D0~24E9 2C30~2C5F 2C61 2C65~2C66 2C68~2C6C/2
   2C71 2C73~2C74 2C76~2C7D 2C81~2CE1/2 2CE3~2CE4 2CEC 2CEE 2CF3 2D00~2D25 2D27 2D2D
   A641~A66D/2 A681~A699/2 A69B~A69D A723~A72D/2 A72F~A731 A733~A76D/2 A76F~A778 A77A A77C
   A77F~A787/2 A78C A78E A791 A793~A795 A797~A7A9/2 A7AF A7B5~A7C3/2 A7C8 A7CA A7CD~A7DB/2
   A7F1~A7F4 A7F6 A7F8~A7FA AB30~AB5A AB5C~AB69 AB70~ABBF FB00~FB06 FB13~FB17 FF41~FF5A
   10428~1044F 104D8~104FB 10597~105A1 105A3~105B1 105B3~105B9 105BB~105BC 10780 10783~10785
   10787~107B0 107B2~107BA 10CC0~10CF2 10D70~10D85 118C0~118DF 16E60~16E7F 16EBB~16ED3
   1D41A~1D433 1D44E~1D454 1D456~1D467 1D482~1D49B 1D4B6~1D4B9 1D4BB 1D4BD~1D4C3 1D4C5~1D4CF
   1D4EA~1D503 1D51E~1D537 1D552~1D56B 1D586~1D59F 1D5BA~1D5D3 1D5EE~1D607 1D622~1D63B
   1D656~1D66F 1D68A~1D6A5 1D6C2~1D6DA 1D6DC~1D6E1 1D6FC~1D714 1D716~1D71B 1D736~1D74E
   1D750~1D755 1D770~1D788 1D78A~1D78F 1D7AA~1D7C2 1D7C4~1D7C9 1D7CB 1DF00~1DF09 1DF0B~1DF1E
   1DF25~1DF2A 1E030~1E06D 1E922~1E943"

/-- Title-case letters. -/
def titlecase : CodeTable := CodeTable.ofText
  "1C5 1C8 1CB 1F2 1F88~1F8F 1F98~1F9F 1FA8~1FAF 1FBC 1FCC 1FFC"

/-- Characters that are passed over when the neighbours of a letter are looked for. -/
def caseIgnorable : CodeTable := CodeTable.ofText
  "A8 AD AF B4 B7~B8 2B0~36F 374~375 37A 384~385 387 483~489 559 55F 591~5BD 5BF 5C1~5C2
   5C4~5C5 5C7 5F4 600~605 610~61A 61C 640 64B~65F 670 6D6~6DD 6DF~6E8 6EA~6ED 70F 711 730~74A
   7A6~7B0 7EB~7F5 7FA 7FD 816~82D 859~85B 888 890~891 897~89F 8C9~902 93A 93C 941~948 94D
   951~957 962~963 971 981 9BC 9C1~9C4 9CD 9E2~9E3 9FE A01~A02 A3C A41~A42 A47~A48 A4B~A4D A51
   A70~A71 A75 A81~A82 ABC AC1~AC5 AC7~AC8 ACD AE2~AE3 AFA~AFF B01 B3C B3F B41~B44 B4D B55~B56
   B62~B63 B82 BC0 BCD C00 C04 C3C C3E~C40 C46~C48 C4A~C4D C55~C56 C62~C63 C81 CBC CBF CC6
   CCC~CCD CE2~CE3 D00~D01 D3B~D3C D41~D44 D4D D62~D63 D81 DCA DD2~DD4 DD6 E31 E34~E3A E46~E4E
   EB1 EB4~EBC EC6 EC8~ECE F18~F19 F35~F39/2 F71~F7E F80~F84 F86~F87 F8D~F97 F99~FBC FC6
   102D~1030 1032~1037 1039~103A 103D~103E 1058~1059 105E~1060 1071~1074 1082 1085~1086 108D
   109D 10FC 135D~135F 1712~1714 1732~1733 1752~1753 1772~1773 17B4~17B5 17B7~17BD 17C6
   17C9~17D3 17D7 17DD 180B~180F 1843 1885~1886 18A9 1920~1922 1927~1928 1932 1939~193B
   1A17~1A18 1A1B 1A56 1A58~1A5E 1A60 1A62 1A65~1A6C 1A73~1A7C 1A7F 1AA7 1AB0~1ADD 1AE0~1AEB
   1B00~1B03 1B34 1B36~1B3A 1B3C 1B42 1B6B~1B73 1B80~1B81 1BA2~1BA5 1BA8~1BA9 1BAB~1BAD 1BE6
   1BE8~1BE9 1BED 1BEF~1BF1 1C2C~1C33 1C36~1C37 1C78~1C7D 1CD0~1CD2 1CD4~1CE0 1CE2~1CE8 1CED
   1CF4 1CF8~1CF9 1D2C~1D6A 1D78 1D9B~1DFF 1FBD 1FBF~1FC1 1FCD~1FCF 1FDD~1FDF 1FED~1FEF
   1FFD~1FFE 200B~200F 2018~2019 2024 2027 202A~202E 2060~2064 2066~206F 2071 207F 2090~209C
   20D0~20F0 2C7C~2C7D 2CEF~2CF1 2D6F 2D7F 2DE0~2DFF 2E2F 3005 302A~302D 3031~3035 303B
   3099~309E 30FC~30FE A015 A4F8~A4FD A60C A66F~A672 A674~A67D A67F A69C~A69F A6F0~A6F1
   A700~A721 A770 A788~A78A A7F1~A7F4 A7F8~A7F9 A802 A806 A80B A825~A826 A82C A8C4~A8C5
   A8E0~A8F1 A8FF A926~A92D A947~A951 A980~A982 A9B3 A9B6~A9B9 A9BC~A9BD A9CF A9E5~A9E6
   AA29~AA2E AA31~AA32 AA35~AA36 AA43 AA4C AA70 AA7C AAB0 AAB2~AAB4 AAB7~AAB8 AABE~AABF AAC1
   AADD AAEC~AAED AAF3~AAF4 AAF6 AB5B~AB5F AB69~AB6B ABE5 ABE8 ABED FB1E FBB2~FBC2 FE00~FE0F
   FE13 FE20~FE2F FE52 FE55 FEFF FF07 FF0E FF1A FF3E FF40 FF70 FF9E~FF9F FFE3 FFF9~FFFB 101FD
   102E0 10376~1037A 10780~10785 10787~107B0 107B2~107BA 10A01~10A03 10A05~10A06 10A0C~10A0F
   10A38~10A3A 10A3F 10AE5~10AE6 10D24~10D27 10D4E 10D69~10D6D 10D6F 10EAB~10EAC 10EC5
   10EFA~10EFF 10F46~10F50 10F82~10F85 11001 11038~11046 11070 11073~11074 1107F~11081
   110B3~110B6 110B9~110BA 110BD 110C2 110CD 11100~11102 11127~1112B 1112D~11134 11173
   11180~11181 111B6~111BE 111C9~111CC 111CF 1122F~11231 11234 11236~11237 1123E 11241 112DF
   112E3~112EA 11300~11301 1133B~1133C 11340 11366~1136C 11370~11374 113BB~113C0 113CE~113D2/2
   113E1~113E2 11438~1143F 11442~11444 11446 1145E 114B3~114B8 114BA 114BF~114C0 114C2~114C3
   115B2~115B5 115BC~115BD 115BF~115C0 115DC~115DD 11633~1163A 1163D 1163F~11640 116AB 116AD
   116B0~116B5 116B7 1171D 1171F 11722~11725 11727~1172B 1182F~11837 11839~1183A 1193B~1193C
   1193E 11943 119D4~119D7 119DA~119DB 119E0 11A01~11A0A 11A33~11A38 11A3B~11A3E 11A47
   11A51~11A56 11A59~11A5B 11A8A~11A96 11A98~11A99 11B60 11B62~11B64 11B66 11C30~11C36
   11C38~11C3D 11C3F 11C92~11CA7 11CAA~11CB0 11CB2~11CB3 11CB5~11CB6 11D31~11D36 11D3A
   11D3C~11D3D 11D3F~11D45 11D47 11D90~11D91 11D95 11D97 11DD9 11EF3~11EF4 11F00~11F01
   11F36~11F3A 11F40 11F42 11F5A 13430~13440 13447~13455 1611E~16129 1612D~1612F 16AF0~16AF4
   16B30~16B36 16B40~16B43 16D40~16D42 16D6B~16D6C 16F4F 16F8F~16F9F 16FE0~16FE1 16FE3~16FE4
   16FF2~16FF3 1AFF0~1AFF3 1AFF5~1AFFB 1AFFD~1AFFE 1BC9D~1BC9E 1BCA0~1BCA3 1CF00~1CF2D
   1CF30~1CF46 1D167~1D169 1D173~1D182 1D185~1D18B 1D1AA~1D1AD 1D242~1D244 1DA00~1DA36
   1DA3B~1DA6C 1DA75 1DA84 1DA9B~1DA9F 1DAA1~1DAAF 1E000~1E006 1E008~1E018 1E01B~1E021
   1E023~1E024 1E026~1E02A 1E030~1E06D 1E08F 1E130~1E13D 1E2AE 1E2EC~1E2EF 1E4EB~1E4EF
   1E5EE~1E5EF 1E6E3 1E6E6 1E6EE~1E6EF 1E6F5 1E6FF 1E8D0~1E8D6 1E944~1E94B 1F3FB~1F3FF E0001
   E0020~E007F E0100~E01EF"

end TemplateExpr.Text.Property

/-!
## Classes

ASCII characters are told apart here, all others are looked up in the tables.
-/

namespace TemplateExpr.Text

/-- White space: the blanks and line breaks that the ends of a text are stripped of. -/
def isBlank (c : Char) : Bool :=
  let n := c.toNat
  (9 ≤ n && n ≤ 13) || n == 0x20 || n == 0x85 || n == 0xA0 || n == 0x1680 ||
    (0x2000 ≤ n && n ≤ 0x200A) || n == 0x2028 || n == 0x2029 || n == 0x202F || n == 0x205F ||
    n == 0x3000

/-- Whether `c` is an ASCII letter. -/
def isAsciiLetter (c : Char) : Bool := c.isAlpha

/-- Whether `c` is one of the digits `0` to `9`. -/
def isAsciiDigit (c : Char) : Bool := c.isDigit

/-- Whether `c` is an ASCII letter or digit. -/
def isAsciiAlphanumeric (c : Char) : Bool := c.isAlpha || c.isDigit

/-- Whether `c` is an ASCII character. -/
def isAscii (c : Char) : Bool := c.toNat < 128

/-- Whether a name may start with `c`: a letter, `_` or `$`. -/
def isNameStart (c : Char) : Bool :=
  if isAscii c then c == '$' || c == '_' || c.isAlpha else Property.identifierStart.contains c

/-- Whether a name may go on with `c`: what may start one, digits and marks. -/
def isNameContinue (c : Char) : Bool :=
  if isAscii c then c == '$' || c == '_' || c.isAlpha || c.isDigit
  else Property.identifierContinue.contains c

/-- Alphabetic characters. -/
def isAlphabetic (c : Char) : Bool :=
  if isAscii c then c.isAlpha else Property.alphabetic.contains c

/-- Letters and numbers of every script. -/
def isAlphanumeric (c : Char) : Bool :=
  if isAscii c then c.isAlpha || c.isDigit
  else Property.alphabetic.contains c || Property.numeric.contains c

/-- Decimal digits of every script. -/
def isDecimalDigit (c : Char) : Bool :=
  if isAscii c then c.isDigit else Property.decimalDigit.contains c

/-- Upper-case characters. -/
def isUpper (c : Char) : Bool :=
  if isAscii c then c.isUpper else Property.uppercase.contains c

/-- Lower-case characters. -/
def isLower (c : Char) : Bool :=
  if isAscii c then c.isLower else Property.lowercase.contains c

/-- Characters that have a case. -/
def isCased (c : Char) : Bool :=
  if isAscii c then c.isAlpha
  else Property.uppercase.contains c || Property.lowercase.contains c ||
    Property.titlecase.contains c

/-- Characters that are passed over when the neighbours of a letter are looked for. -/
def isCaseIgnorable (c : Char) : Bool :=
  if isAscii c then ['\'', '.', ':', '^', '`'].contains c else Property.caseIgnorable.contains c

/-- A name may go on with every character that may start one, as far as ASCII goes. -/
theorem isNameContinue_of_isNameStart {c : Char} (hc : isAscii c = true)
    (h : isNameStart c = true) : isNameContinue c = true := by
  simp only [isNameStart, isNameContinue, hc, if_true, Bool.or_eq_true] at h ⊢
  exact Or.inl h

end TemplateExpr.Text
